import Chip8.Proofs.Display.Work

/-!
A display on which every call is noted down. It stands between a machine and any other display
and hands on what passes, so that "the calls that a machine makes" is something that a theorem can
speak of.
-/

namespace Chip8

/-- A call to a display, with what it was answered. -/
inductive Call
  | readPixel (row col : Nat) (answer : Except DisplayError Bool)
  | setPixel (row col : Nat) (lit : Bool) (answer : Except DisplayError Unit)
  | refresh (answer : Except DisplayError Unit)
  | pollKey (key : Option UInt8)

namespace Call

def isPixel : Call → Bool
  | readPixel .. | setPixel .. => true
  | _ => false

def isRefresh : Call → Bool
  | refresh _ => true
  | _ => false

theorem isRefresh_of_isPixel {call : Call} (h : call.isPixel) : call.isRefresh = false := by
  cases call with
  | refresh | pollKey => cases h
  | _ => rfl

/-- Why the call was refused. -/
def failure? : Call → Option DisplayError
  | readPixel _ _ (.error e) | setPixel _ _ _ (.error e) | refresh (.error e) => some e
  | _ => none

/-- Whether the call is about a pixel of the grid, if it is about a pixel at all. -/
def InGrid (size : DisplaySize) : Call → Prop
  | readPixel row col _ | setPixel row col _ _ => size.Contains row col
  | _ => True

theorem failure?_readPixel {row col : Nat} {answer : Except DisplayError Bool}
    {e : DisplayError} :
    answer.map (fun _ => ()) = .error e ↔ (readPixel row col answer).failure? = some e := by
  cases answer <;> simp [failure?, Except.map]

theorem failure?_setPixel {row col : Nat} {lit : Bool} {answer : Except DisplayError Unit}
    {e : DisplayError} :
    answer = .error e ↔ (setPixel row col lit answer).failure? = some e := by
  cases answer <;> simp [failure?]

theorem failure?_refresh {answer : Except DisplayError Unit} {e : DisplayError} :
    answer = .error e ↔ (refresh answer).failure? = some e := by
  cases answer <;> simp [failure?]

/-- Whether every call for a pixel was answered. -/
def AllAnswered (calls : List Call) : Prop :=
  ∀ call ∈ calls, call.isPixel → call.failure? = none

instance (calls : List Call) : Decidable (AllAnswered calls) :=
  inferInstanceAs (Decidable (∀ call ∈ calls, call.isPixel → call.failure? = none))

/-- Calls for pixels are followed by one refresh if all were answered, and that is all; where
nothing is drawn, there is no refresh. -/
structure Refreshes (drawing : Bool) (calls : List Call) : Prop where
  count : calls.countP isRefresh = if drawing ∧ AllAnswered calls then 1 else 0
  last : ∀ before answer after, calls = before ++ refresh answer :: after → after = []

theorem countP_isRefresh_of_isPixel {calls : List Call} (h : ∀ call ∈ calls, call.isPixel) :
    calls.countP isRefresh = 0 := by
  refine List.countP_eq_zero.2 fun call hmem => ?_
  rw [isRefresh_of_isPixel (h call hmem)]
  exact Bool.false_ne_true

theorem refresh_not_mem_of_isPixel {calls : List Call} (h : ∀ call ∈ calls, call.isPixel)
    (answer : Except DisplayError Unit) : refresh answer ∉ calls :=
  fun hmem => Bool.false_ne_true (h _ hmem)

theorem refreshes_of_answered {calls : List Call} (hpixel : ∀ call ∈ calls, call.isPixel)
    (hanswered : ∀ call ∈ calls, call.failure? = none) (answer : Except DisplayError Unit) :
    Refreshes true (calls ++ [refresh answer]) where
  count := by
    have hall : AllAnswered (calls ++ [refresh answer]) :=
      List.forall_mem_append.2 ⟨fun call hmem _ => hanswered call hmem,
        List.forall_mem_singleton.2 fun h => nomatch h⟩
    rw [if_pos ⟨rfl, hall⟩, List.countP_append, countP_isRefresh_of_isPixel hpixel]
    rfl
  last before other after heq := by
    rcases List.eq_nil_or_concat after with rfl | ⟨rest, x, rfl⟩
    · rfl
    · -- An earlier refresh would be among the calls for pixels.
      rw [List.concat_eq_append, ← List.cons_append, ← List.append_assoc] at heq
      have hmem : refresh other ∈ calls := by
        rw [(List.append_inj' heq rfl).1]
        exact List.mem_append_right _ List.mem_cons_self
      exact absurd hmem (refresh_not_mem_of_isPixel hpixel other)

theorem refreshes_of_refused {calls : List Call} (hpixel : ∀ call ∈ calls, call.isPixel)
    {call : Call} (hmem : call ∈ calls) {e : DisplayError} (hfailure : call.failure? = some e) :
    Refreshes true calls where
  count := by
    have hrefused : ¬ AllAnswered calls := fun h => by
      simp [h call hmem (hpixel call hmem)] at hfailure
    rw [if_neg fun h => hrefused h.2, countP_isRefresh_of_isPixel hpixel]
  last before answer after heq := by
    have hrefresh : refresh answer ∈ calls := by
      rw [heq]
      exact List.mem_append_right _ List.mem_cons_self
    exact absurd hrefresh (refresh_not_mem_of_isPixel hpixel answer)

theorem refreshes_of_pollKey {calls : List Call}
    (h : ∀ call ∈ calls, ∃ key, call = pollKey key) : Refreshes false calls where
  count := by
    rw [if_neg fun h => Bool.false_ne_true h.1]
    refine List.countP_eq_zero.2 fun call hmem => ?_
    obtain ⟨key, rfl⟩ := h call hmem
    exact Bool.false_ne_true
  last before answer after heq := by
    have hmem : refresh answer ∈ calls := by
      rw [heq]
      exact List.mem_append_right _ List.mem_cons_self
    obtain ⟨key, hkey⟩ := h _ hmem
    cases hkey

end Call

structure Recorder (D : Type) where
  inner : D
  /-- The calls so far, oldest first. -/
  calls : List Call := []

namespace Recorder

variable {D : Type} [Display D]

def note (r : Recorder D) (inner : D) (call : Call) : Recorder D where
  inner
  calls := r.calls ++ [call]

instance : Display (Recorder D) where
  size r := Display.size r.inner
  readPixel r row col :=
    let (answer, inner) := Display.readPixel r.inner row col
    (answer, r.note inner (.readPixel row col answer))
  setPixel r row col lit :=
    let (answer, inner) := Display.setPixel r.inner row col lit
    (answer, r.note inner (.setPixel row col lit answer))
  refresh r :=
    let (answer, inner) := Display.refresh r.inner
    (answer, r.note inner (.refresh answer))
  pollKey r :=
    let (key, inner) := Display.pollKey r.inner
    (key, r.note inner (.pollKey key))
  terminate r := { r with inner := Display.terminate r.inner }

variable {size : DisplaySize} {r r' : Recorder D} {answer : Except DisplayError Unit}

/-! ### The calls of work -/

theorem pixelCall_calls (h : PixelCall size r answer r') :
    ∃ call, r'.calls = r.calls ++ [call] ∧ call.isPixel ∧ call.InGrid size ∧
      ∀ e, answer = .error e ↔ call.failure? = some e := by
  cases h with
  | read hgrid hcall =>
      cases hcall
      exact ⟨_, rfl, rfl, hgrid, fun _ => Call.failure?_readPixel⟩
  | set hgrid hcall =>
      cases hcall
      exact ⟨_, rfl, rfl, hgrid, fun _ => Call.failure?_setPixel⟩

theorem visits_calls (h : Visits size r answer r') :
    ∃ calls, r'.calls = r.calls ++ calls ∧ (∀ call ∈ calls, call.isPixel ∧ call.InGrid size) ∧
      ∀ e, answer = .error e ↔ ∃ call ∈ calls, call.failure? = some e := by
  induction h with
  | nil r => exact ⟨[], by simp⟩
  | refused hcall =>
      obtain ⟨call, hcalls, hpixel, hgrid, hfailure⟩ := pixelCall_calls hcall
      exact ⟨[call], hcalls, by simp [hpixel, hgrid], by simp [← hfailure]⟩
  | next hcall _ ih =>
      obtain ⟨call, hcalls, hpixel, hgrid, hfailure⟩ := pixelCall_calls hcall
      obtain ⟨calls, hmore, hall, hanswer⟩ := ih
      refine ⟨call :: calls, by simp [hmore, hcalls], ?_, fun e => ?_⟩
      · exact List.forall_mem_cons.2 ⟨⟨hpixel, hgrid⟩, hall⟩
      · simp [hanswer, ← hfailure]

theorem works_calls (h : Works size r answer r') :
    ∃ calls, r'.calls = r.calls ++ calls ∧ (∀ call ∈ calls, call.InGrid size) ∧
      Call.Refreshes true calls ∧
      ∀ e, answer = .error e → ∃ call ∈ calls, call.failure? = some e := by
  cases h with
  | @refreshed d₁ _ _ hvisits hcall =>
      obtain ⟨calls, hcalls, hall, hanswer⟩ := visits_calls hvisits
      cases hcall
      have hpixel := fun call hmem => (hall call hmem).1
      have hanswered : ∀ call ∈ calls, call.failure? = none := fun call hmem =>
        Option.eq_none_iff_forall_ne_some.2 fun e he => nomatch (hanswer e).2 ⟨call, hmem, he⟩
      have hrefreshes :=
        Call.refreshes_of_answered hpixel hanswered (Display.refresh d₁.inner).1
      refine ⟨_, ?_, ?_, hrefreshes, fun e he => ?_⟩
      · rw [← List.append_assoc, ← hcalls]
        rfl
      · exact List.forall_mem_append.2
          ⟨fun call hmem => (hall call hmem).2, List.forall_mem_singleton.2 trivial⟩
      · exact ⟨_, List.mem_append_right _ List.mem_cons_self, Call.failure?_refresh.1 he⟩
  | refused hvisits =>
      obtain ⟨calls, hcalls, hall, hanswer⟩ := visits_calls hvisits
      obtain ⟨call, hmem, hfailure⟩ := (hanswer _).1 rfl
      exact ⟨calls, hcalls, fun call hmem => (hall call hmem).2,
        Call.refreshes_of_refused (fun call hmem => (hall call hmem).1) hmem hfailure,
        fun e => (hanswer e).1⟩

end Recorder

end Chip8
