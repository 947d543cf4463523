import Chip8.Proofs.Terminal.Calls

/-!
Which key counts as held. A terminal remembers one press, forgets it when its key is released or
when somebody asks too late, and forgets nothing else; so its answers can be read off the key
events that it handled, with their instants (`Holds`). Whether somebody asked in between shows in
no answer: a hold that is over stays over, because time does not run backwards.
-/

namespace Chip8

/-! ### Keys of the keypad -/

namespace Keypad

theorem toUpper_toLower {c : Char} (h : c.toLower ≠ c) : c.toLower.toUpper = c := by
  have hletters : ∀ n < 91, 65 ≤ n → (Char.ofNat n).toLower.toUpper = Char.ofNat n := by decide
  have hletter : 65 ≤ c.toNat ∧ c.toNat < 91 := by
    unfold Char.toLower at h
    split_ifs at h with hrange
    · have hrange : (65 : UInt32) ≤ c.val ∧ c.val ≤ 90 := hrange
      rw [UInt32.le_iff_toNat_le, UInt32.le_iff_toNat_le] at hrange
      exact ⟨hrange.1, Nat.lt_succ_of_le hrange.2⟩
    · exact absurd rfl h
  have hc := hletters c.toNat hletter.2 hletter.1
  rwa [Char.ofNat_toNat] at hc

/-- A key of the keypad is one character of the keyboard, in either case. -/
theorem key?_eq_some_iff {c : Char} {k : UInt8} :
    key? c = some k ↔ ∃ l, (l, k) ∈ layout ∧ (c = l ∨ c = l.toUpper) := by
  constructor
  · intro h
    obtain ⟨before, after, hlayout, -⟩ := List.lookup_eq_some_iff.1 h
    refine ⟨c.toLower, hlayout ▸ List.mem_append_right _ List.mem_cons_self, ?_⟩
    by_cases hlower : c.toLower = c
    · exact .inl hlower.symm
    · exact .inr (toUpper_toLower hlower).symm
  · have hall : ∀ p ∈ layout, key? p.1 = some p.2 ∧ key? p.1.toUpper = some p.2 := by decide
    rintro ⟨l, hl, rfl | rfl⟩
    · exact (hall _ hl).1
    · exact (hall _ hl).2

end Keypad

namespace KeyEvent

/-- The event is about a key of the keypad, and does not ask to stop. -/
structure IsFor (e : KeyEvent) (k : UInt8) : Prop where
  goes_on : e.asksToQuit = false
  mapped : ∃ l, (l, k) ∈ Keypad.layout ∧ (e.key = .char l ∨ e.key = .char l.toUpper)

/-- The key goes down, or reports that it is still down. -/
def Presses (e : KeyEvent) (k : UInt8) : Prop :=
  e.IsFor k ∧ e.action ≠ .release

def Releases (e : KeyEvent) (k : UInt8) : Prop :=
  e.IsFor k ∧ e.action = .release

variable {e : KeyEvent} {k l : UInt8}

theorem isFor_iff : e.IsFor k ↔ e.asksToQuit = false ∧ e.keypad? = some k := by
  have hmapped : e.keypad? = some k ↔
      ∃ l, (l, k) ∈ Keypad.layout ∧ (e.key = .char l ∨ e.key = .char l.toUpper) := by
    unfold keypad?
    cases e.key <;> simp [Keypad.key?_eq_some_iff]
  rw [hmapped]
  exact ⟨fun h => ⟨h.goes_on, h.mapped⟩, fun h => ⟨h.1, h.2⟩⟩

theorem IsFor.unique (h : e.IsFor k) (h' : e.IsFor l) : k = l :=
  Option.some.inj ((isFor_iff.1 h).2.symm.trans (isFor_iff.1 h').2)

theorem press_release_or_neither (e : KeyEvent) :
    (∃ k, e.Presses k) ∨ (∃ k, e.Releases k) ∨ ∀ k, ¬ e.IsFor k := by
  by_cases hkey : ∃ k, e.IsFor k
  · obtain ⟨k, hk⟩ := hkey
    by_cases hrelease : e.action = .release
    · exact .inr (.inl ⟨k, hk, hrelease⟩)
    · exact .inl ⟨k, hk, hrelease⟩
  · exact .inr (.inr (not_exists.1 hkey))

end KeyEvent

/-- A key event that comes in, or a question. The questions make a terminal read what was typed. -/
inductive KeyAct
  | event (e : KeyEvent)
  | pollKey
  | quitRequested

/-- The event that comes in, if one does. -/
def KeyAct.event? : KeyAct → Option KeyEvent
  | event e => some e
  | pollKey => none
  | quitRequested => none

/-- The events that come in by themselves. -/
def eventsOf (acts : List (Nat × KeyAct)) : List (Nat × KeyEvent) :=
  acts.filterMap fun a => a.2.event?.map (a.1, ·)

/-! ### Where nothing is typed -/

/-- Nothing was typed, and nothing is left to be looked at. -/
structure Console.Quiet (c : Console) : Prop where
  typed_eq : c.typed = []
  waiting_eq : c.waiting = []
  announced_eq : c.input.announced = false

theorem Console.Quiet.readKeys {c : Console} (h : c.Quiet) :
    c.readKeys.1 = [] ∧ c.readKeys.2.Quiet := by
  have htake : c.take.Quiet := by
    have hspan : c.typed.span (·.1 ≤ c.now) = ([], []) := by
      rw [h.typed_eq]
      rfl
    unfold Console.take
    rw [hspan]
    refine ⟨rfl, h.waiting_eq, ?_⟩
    dsimp only
    split_ifs
    · simp [InputQueue.push, h.announced_eq]
    · exact h.announced_eq
  have hread : c.readEvents = ([], c.take) := by
    unfold Console.readEvents
    simp only [htake.announced_eq]
    rfl
  unfold Console.readKeys
  rw [h.waiting_eq]
  simp only [Typed.splitAtReport, hread]
  exact ⟨rfl, htake.typed_eq, rfl, htake.announced_eq⟩

namespace Terminal

/-! ### Histories -/

/-- The key counts as held: it is the one that was pressed last, not too long ago, and it was not
released since. -/
def Holds (k : UInt8) (now : Nat) (history : List (Nat × KeyEvent)) : Prop :=
  ∃ before pressed e after, history = before ++ (pressed, e) :: after ∧
    e.Presses k ∧ now - pressed < holdTime ∧
    ∀ x ∈ after, (∀ l, ¬ x.2.Presses l) ∧ ¬ x.2.Releases k

theorem holds_append_singleton {k : UInt8} {now pressed : Nat} {history : List (Nat × KeyEvent)}
    {e : KeyEvent} :
    Holds k now (history ++ [(pressed, e)]) ↔
      (e.Presses k ∧ now - pressed < holdTime) ∨
      ((∀ l, ¬ e.Presses l) ∧ ¬ e.Releases k ∧ Holds k now history) := by
  constructor
  · rintro ⟨before, p, e', after, hhistory, hpress, hrecent, hafter⟩
    rcases List.eq_nil_or_concat after with rfl | ⟨after, last, rfl⟩
    · obtain ⟨-, hlast⟩ := List.append_inj' hhistory rfl
      cases hlast
      exact .inl ⟨hpress, hrecent⟩
    · rw [List.concat_eq_append, ← List.cons_append, ← List.append_assoc] at hhistory
      obtain ⟨rfl, hlast⟩ := List.append_inj' hhistory rfl
      cases hlast
      obtain ⟨hnone, hkept⟩ := hafter (pressed, e) (by simp)
      exact .inr ⟨hnone, hkept, before, p, e', after, rfl, hpress, hrecent,
        fun x hx => hafter x (by simp [hx])⟩
  · rintro (⟨hpress, hrecent⟩ | ⟨hnone, hkept, before, p, e', after, rfl, hpress, hrecent, hafter⟩)
    · exact ⟨history, pressed, e, [], rfl, hpress, hrecent, List.forall_mem_nil _⟩
    · refine ⟨before, p, e', after ++ [(pressed, e)], by simp, hpress, hrecent, ?_⟩
      intro x hx
      rcases List.mem_append.1 hx with hx | hx
      · exact hafter x hx
      · rw [List.mem_singleton.1 hx]
        exact ⟨hnone, hkept⟩

section Events

variable {k l : UInt8} {now pressed : Nat} {history : List (Nat × KeyEvent)} {e : KeyEvent}

theorem holds_append_press (h : e.Presses l) :
    Holds k now (history ++ [(pressed, e)]) ↔ l = k ∧ now - pressed < holdTime := by
  rw [holds_append_singleton]
  constructor
  · rintro (⟨hpress, hrecent⟩ | ⟨hnone, -⟩)
    · exact ⟨h.1.unique hpress.1, hrecent⟩
    · exact absurd h (hnone l)
  · rintro ⟨rfl, hrecent⟩
    exact .inl ⟨h, hrecent⟩

theorem holds_append_release (h : e.Releases l) :
    Holds k now (history ++ [(pressed, e)]) ↔ l ≠ k ∧ Holds k now history := by
  have hnone : ∀ m, ¬ e.Presses m := fun m hm => hm.2 h.2
  have hreleases : e.Releases k ↔ l = k := ⟨fun hk => h.1.unique hk.1, fun hk => hk ▸ h⟩
  rw [holds_append_singleton, hreleases]
  simp [hnone]

theorem holds_append_neither (h : ∀ k, ¬ e.IsFor k) :
    Holds k now (history ++ [(pressed, e)]) ↔ Holds k now history := by
  have hnone : ∀ m, ¬ e.Presses m := fun m hm => h m hm.1
  have hkept : ¬ e.Releases k := fun hk => h k hk.1
  rw [holds_append_singleton]
  simp [hnone, hkept]

end Events

variable {t : Terminal} {e : KeyEvent} {k : UInt8} {now later : Nat}
  {history : List (Nat × KeyEvent)}

/-! ### One event -/

@[simp] theorem console_handleKey (t : Terminal) (e : KeyEvent) :
    (t.handleKey e).console = t.console := by
  unfold handleKey
  repeat' split
  all_goals rfl

theorem quit_handleKey (t : Terminal) (e : KeyEvent) :
    (t.handleKey e).quit = (t.quit || e.asksToQuit) := by
  unfold handleKey
  split_ifs with hquit
  · simp [hquit]
  · rw [Bool.eq_false_iff.2 hquit, Bool.or_false]
    repeat' split
    all_goals rfl

theorem held_handleKey_of_isFor (t : Terminal) (h : e.IsFor k) :
    (t.handleKey e).held =
      if e.action = .release then (if t.held.any (·.1 = k) then none else t.held)
      else some (k, t.console.now) := by
  obtain ⟨hstay, hkey⟩ := KeyEvent.isFor_iff.1 h
  unfold KeyEvent.keypad? at hkey
  unfold handleKey
  rw [if_neg (Bool.eq_false_iff.1 hstay)]
  split at hkey
  · next c hc =>
      simp only [hc, hkey]
      cases e.action with
      | release =>
          simp only [if_true]
          split_ifs <;> rfl
      | press => rfl
      | again => rfl
  · cases hkey

theorem held_handleKey_of_not_isFor (t : Terminal) (h : ∀ k, ¬ e.IsFor k) :
    (t.handleKey e).held = t.held := by
  unfold handleKey
  split_ifs with hquit
  · rfl
  · cases hkey : e.key with
    | escape => rfl
    | other => rfl
    | char c =>
        cases hc : Keypad.key? c with
        | none => simp only [hc]
        | some k =>
            have hkeypad : e.keypad? = some k := by
              simp only [KeyEvent.keypad?, hkey, hc]
            exact absurd (KeyEvent.isFor_iff.2 ⟨Bool.eq_false_iff.2 hquit, hkeypad⟩) (h k)

/-! ### What a terminal knows of its history -/

/-- From `now` on, a terminal knows of its history which key is held, and whether to stop. -/
structure Knows (t : Terminal) (now : Nat) (history : List (Nat × KeyEvent)) : Prop where
  held_iff {later : Nat} (hlater : now ≤ later) (k : UInt8) :
    (∃ pressed, t.held = some (k, pressed) ∧ later - pressed < holdTime) ↔ Holds k later history
  quit_iff : t.quit = true ↔ ∃ x ∈ history, x.2.asksToQuit = true

theorem Knows.mono (h : Knows t now history) (hlater : now ≤ later) :
    Knows t later history where
  held_iff hlater' := h.held_iff (Nat.le_trans hlater hlater')
  quit_iff := h.quit_iff

theorem Knows.handleKey (h : Knows t now history) (hnow : t.console.now = now) (e : KeyEvent) :
    Knows (t.handleKey e) now (history ++ [(now, e)]) where
  held_iff {later} hlater k := by
    rcases e.press_release_or_neither with ⟨l, hpress⟩ | ⟨l, hrelease⟩ | hneither
    · rw [held_handleKey_of_isFor t hpress.1, if_neg hpress.2, hnow, holds_append_press hpress]
      simp [and_assoc]
    · rw [held_handleKey_of_isFor t hrelease.1, if_pos hrelease.2, holds_append_release hrelease,
        ← h.held_iff hlater]
      split_ifs with hown
      · constructor
        · rintro ⟨pressed, hnothing, -⟩
          cases hnothing
        · rintro ⟨hother, pressed, hheld, -⟩
          rw [hheld] at hown
          exact absurd (by simpa [eq_comm] using hown) hother
      · constructor
        · rintro ⟨pressed, hheld, hrecent⟩
          refine ⟨?_, pressed, hheld, hrecent⟩
          rintro rfl
          exact hown (by simp [hheld])
        · exact fun h => h.2
    · rw [held_handleKey_of_not_isFor t hneither, holds_append_neither hneither,
        h.held_iff hlater]
  quit_iff := by
    rw [quit_handleKey, Bool.or_eq_true, h.quit_iff]
    simp [or_and_right, exists_or]

theorem Knows.foldl_handleKey (h : Knows t now history) (hnow : t.console.now = now)
    (events : List KeyEvent) :
    Knows (events.foldl Terminal.handleKey t) now (history ++ events.map (now, ·)) := by
  induction events generalizing t history with
  | nil => simpa using h
  | cons e events ih =>
      have hrest := ih (h.handleKey hnow e) (by rw [console_handleKey, hnow])
      rwa [List.append_assoc] at hrest

theorem now_readKeys (c : Console) : c.readKeys.2.now = c.now := by
  obtain ⟨typed, input, begun, waiting, hread⟩ := c.readKeys_eq
  rw [hread]

theorem console_foldl_handleKey (t : Terminal) (events : List KeyEvent) :
    (events.foldl Terminal.handleKey t).console = t.console := by
  induction events generalizing t with
  | nil => rfl
  | cons e events ih => exact (ih _).trans (console_handleKey t e)

theorem console_readKeys (t : Terminal) : t.readKeys.console = t.console.readKeys.2 :=
  console_foldl_handleKey _ _

theorem Knows.readKeys (h : Knows t now history) (hnow : t.console.now = now) :
    Knows t.readKeys now (history ++ t.console.readKeys.1.map (now, ·)) := by
  have hread : Knows { t with console := t.console.readKeys.2 } now history :=
    ⟨h.held_iff, h.quit_iff⟩
  exact hread.foldl_handleKey ((now_readKeys _).trans hnow) _

/-- Asking for the key answers from the history. -/
theorem Knows.heldKey_iff (h : Knows t now history) (hnow : t.console.now = now) :
    t.heldKey.1 = some k ↔ Holds k now history := by
  rw [← h.held_iff (Nat.le_refl now), heldKey, hnow]
  cases t.held with
  | none => simp
  | some hold =>
      dsimp only
      split_ifs with hrecent
      · constructor
        · intro heq
          cases heq
          exact ⟨hold.2, rfl, hrecent⟩
        · rintro ⟨pressed, heq, -⟩
          cases heq
          rfl
      · constructor
        · intro hnothing
          cases hnothing
        · rintro ⟨pressed, heq, hrecent'⟩
          cases heq
          exact absurd hrecent' hrecent

theorem console_heldKey (t : Terminal) : t.heldKey.2.console = t.console := by
  unfold heldKey
  repeat' split
  all_goals rfl

/-- And what is forgotten then would never count again. -/
theorem Knows.heldKey (h : Knows t now history) (hnow : t.console.now = now) :
    Knows t.heldKey.2 now history := by
  unfold Terminal.heldKey
  rw [hnow]
  split
  · exact h
  · next key pressed hheld =>
      split_ifs with hrecent
      · exact h
      · refine ⟨fun {later} hlater k => ?_, h.quit_iff⟩
        rw [← h.held_iff hlater, hheld]
        constructor
        · rintro ⟨pressed, hnothing, -⟩
          cases hnothing
        · -- Too long ago already, and time goes on.
          rintro ⟨pressed, heq, hrecent'⟩
          cases heq
          omega

/-! ### What happens to a terminal -/

/-- Something happens at an instant. -/
def act (t : Terminal) (a : Nat × KeyAct) : Terminal :=
  match a.2 with
  | .event e => (t.await a.1).handleKey e
  | .pollKey => (t.await a.1).pollKey.2
  | .quitRequested => (t.await a.1).quitRequested.2

/-- The events that are handled then. -/
def handledIn (t : Terminal) (a : Nat × KeyAct) : List (Nat × KeyEvent) :=
  match a.2 with
  | .event e => [(a.1, e)]
  | .pollKey => (t.await a.1).console.readKeys.1.map (a.1, ·)
  | .quitRequested => (t.await a.1).console.readKeys.1.map (a.1, ·)

/-- All events that are handled as one thing happens after the other. -/
def handled (t : Terminal) : List (Nat × KeyAct) → List (Nat × KeyEvent)
  | [] => []
  | a :: acts => t.handledIn a ++ (t.act a).handled acts

theorem handled_append (t : Terminal) (acts more : List (Nat × KeyAct)) :
    t.handled (acts ++ more) = t.handled acts ++ (acts.foldl act t).handled more := by
  induction acts generalizing t with
  | nil => rfl
  | cons a acts ih => simp [handled, ih]

theorem Knows.await (h : Knows t now history) (hlater : now ≤ later) :
    Knows (t.await later) later history :=
  ⟨(h.mono hlater).held_iff, h.quit_iff⟩

theorem Knows.act {a : Nat × KeyAct} (h : Knows t now history) (hlater : now ≤ a.1) :
    Knows (t.act a) a.1 (history ++ t.handledIn a) := by
  obtain ⟨later, kind⟩ := a
  have hawait := h.await hlater
  cases kind with
  | event e => exact hawait.handleKey rfl e
  | pollKey => exact (hawait.readKeys rfl).heldKey (by rw [console_readKeys, now_readKeys]; rfl)
  | quitRequested => exact hawait.readKeys rfl

theorem Knows.foldl_act {acts : List (Nat × KeyAct)} (h : Knows t now history)
    (horder : (now :: (acts.map Prod.fst ++ [later])).Pairwise (· ≤ ·)) :
    Knows ((acts.foldl Terminal.act t).await later) later (history ++ t.handled acts) := by
  induction acts generalizing t now history with
  | nil =>
      have hlater : now ≤ later := (List.pairwise_cons.1 horder).1 later (by simp)
      simpa [handled] using h.await hlater
  | cons a acts ih =>
      obtain ⟨hnow, horder⟩ := List.pairwise_cons.1 horder
      have hrest := ih (h.act (hnow a.1 (by simp))) horder
      rwa [List.append_assoc] at hrest

/-! ### Answers -/

/-- What a terminal answers, by the history up to the question. -/
structure Answers (t : Terminal) (polled asked : List (Nat × KeyEvent)) : Prop where
  pollKey_iff (k : UInt8) : t.pollKey.1 = some k ↔ Holds k t.console.now polled
  quitRequested_iff : t.quitRequested.1 = true ↔ ∃ x ∈ asked, x.2.asksToQuit = true

theorem Knows.answers (h : Knows (t.await now) now history) :
    Answers (t.await now) (history ++ t.handledIn (now, .pollKey))
      (history ++ t.handledIn (now, .quitRequested)) where
  pollKey_iff _ := (h.readKeys rfl).heldKey_iff (by rw [console_readKeys, now_readKeys]; rfl)
  quitRequested_iff := (h.readKeys rfl).quit_iff

theorem quit_foldl_handleKey (h : t.quit = true) (events : List KeyEvent) :
    (events.foldl Terminal.handleKey t).quit = true := by
  induction events generalizing t with
  | nil => exact h
  | cons e events ih => exact ih (by rw [quit_handleKey, h, Bool.true_or])

theorem quit_readKeys (h : t.quit = true) : t.readKeys.quit = true := by
  have hread : { t with console := t.console.readKeys.2 }.quit = true := h
  exact quit_foldl_handleKey hread t.console.readKeys.1

theorem quit_heldKey (t : Terminal) : t.heldKey.2.quit = t.quit := by
  unfold heldKey
  repeat' split
  all_goals rfl

/-- A wish to stop is never forgotten. -/
theorem quit_act {a : Nat × KeyAct} (h : t.quit = true) : (t.act a).quit = true := by
  obtain ⟨now, kind⟩ := a
  cases kind with
  | event e => exact (quit_handleKey (t.await now) e).trans (by simp [await, h])
  | pollKey => exact (quit_heldKey _).trans (quit_readKeys h)
  | quitRequested => exact quit_readKeys h

theorem quit_foldl_act (h : t.quit = true) (acts : List (Nat × KeyAct)) :
    (acts.foldl Terminal.act t).quit = true := by
  induction acts generalizing t with
  | nil => exact h
  | cons a acts ih => exact ih (quit_act h)

theorem quiet_act {a : Nat × KeyAct} (h : t.console.Quiet) :
    t.handledIn a = eventsOf [a] ∧ (t.act a).console.Quiet := by
  obtain ⟨now, kind⟩ := a
  have hawait : (t.await now).console.Quiet := ⟨h.typed_eq, h.waiting_eq, h.announced_eq⟩
  obtain ⟨hnone, hquiet⟩ := hawait.readKeys
  rw [← console_readKeys] at hquiet
  cases kind with
  | event e => exact ⟨rfl, by rwa [act, console_handleKey]⟩
  | pollKey => exact ⟨by rw [handledIn, hnone]; rfl, by rwa [act, pollKey, console_heldKey]⟩
  | quitRequested => exact ⟨by rw [handledIn, hnone]; rfl, hquiet⟩

theorem handled_of_quiet (h : t.console.Quiet) (acts : List (Nat × KeyAct)) :
    t.handled acts = eventsOf acts := by
  induction acts generalizing t with
  | nil => rfl
  | cons a acts ih =>
      obtain ⟨hhandled, hquiet⟩ := quiet_act (a := a) h
      rw [handled, hhandled, ih hquiet]
      exact (List.filterMap_append (l := [a])).symm

/-- A terminal answers from the key events that it handled, at instants that do not decrease, and
from nothing else. With nothing typed, these are the events that came in: questions leave no
trace. Whoever asked to stop once need not ask again. -/
theorem answers_by_history {t : Terminal} (hheld : t.held = none) (hquit : t.quit = false)
    (acts : List (Nat × KeyAct)) (now : Nat)
    (horder : (acts.map Prod.fst ++ [now]).Pairwise (· ≤ ·)) :
    let t' := (acts.foldl act t).await now
    Answers t' (t.handled (acts ++ [(now, .pollKey)]))
      (t.handled (acts ++ [(now, .quitRequested)])) ∧
    (t.console.Quiet → Answers t' (eventsOf acts) (eventsOf acts)) ∧
    (t'.quitRequested.1 = true → ∀ (more : List (Nat × KeyAct)) (later : Nat),
      ((more.foldl act t'.quitRequested.2).await later).quitRequested.1 = true) := by
  intro t'
  have hstart : Knows t 0 [] := by
    refine ⟨fun {later} _ k => ?_, by simp [hquit]⟩
    simp [hheld, Holds]
  have hknows : Knows t' now (t.handled acts) := by
    have hzero := List.pairwise_cons.2 ⟨fun later _ => Nat.zero_le later, horder⟩
    simpa using hstart.foldl_act hzero
  have hanswers : Answers t' (t.handled (acts ++ [(now, .pollKey)]))
      (t.handled (acts ++ [(now, .quitRequested)])) := by
    simpa [handled_append, handled] using hknows.answers
  refine ⟨hanswers, fun hquiet => ?_, fun hasked more later => ?_⟩
  · have hquestion : eventsOf (acts ++ [(now, .pollKey)]) = eventsOf acts ∧
        eventsOf (acts ++ [(now, .quitRequested)]) = eventsOf acts := by
      simp [eventsOf, KeyAct.event?]
    rwa [handled_of_quiet hquiet, handled_of_quiet hquiet, hquestion.1, hquestion.2] at hanswers
  · exact quit_readKeys (quit_foldl_act hasked more)

/-- One key is pressed, then another; the first is released, and somebody asks in between. -/
def overlapping : List (Nat × KeyAct) :=
  [(0, .event { key := .char 'q' }), (100000000, .event { key := .char 'W' }),
   (120000000, .event { key := .char 'q', action := .release }), (130000000, .pollKey)]

/-- The second key counts for its whole time, and not a nanosecond longer. -/
theorem answers_by_history_overlapping :
    let t : Terminal := { frame := .new ⟨8, 4⟩ }
    t.held = none ∧ t.quit = false ∧
      (overlapping.map Prod.fst ++ [250000000]).Pairwise (· ≤ ·) ∧
      (((overlapping.foldl act t).await 249999999).pollKey.1 = some 5 ∧
        Holds 5 249999999 (eventsOf overlapping)) ∧
      ((overlapping.foldl act t).await 250000000).pollKey.1 = none ∧
        ∀ k, ¬ Holds k 250000000 (eventsOf overlapping) := by
  intro t
  have hquiet : t.console.Quiet := ⟨rfl, rfl, rfl⟩
  have hlast : ((overlapping.foldl act t).await 249999999).pollKey.1 = some 5 := by decide +kernel
  have hover : ((overlapping.foldl act t).await 250000000).pollKey.1 = none := by decide +kernel
  have horder : (overlapping.map Prod.fst ++ [250000000]).Pairwise (· ≤ ·) := by decide
  have hearlier : (overlapping.map Prod.fst ++ [249999999]).Pairwise (· ≤ ·) := by decide
  refine ⟨rfl, rfl, horder, ⟨hlast, ?_⟩, hover, fun k hk => ?_⟩
  · exact (((answers_by_history rfl rfl overlapping _ hearlier).2.1 hquiet).pollKey_iff 5).1 hlast
  · have hpolled :=
      (((answers_by_history rfl rfl overlapping _ horder).2.1 hquiet).pollKey_iff k).2 hk
    exact absurd (hover.symm.trans hpolled) (Option.some_ne_none k).symm

end Terminal

end Chip8
