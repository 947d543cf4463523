import Chip8.Instruction.Mnemonic
import Chip8.Proofs.Instruction.Encoding
import Chip8.Proofs.Text.Fields
import Chip8.Proofs.Text.Hexadecimal
import Chip8.Proofs.Text.Lines
import Chip8.Text.Decimal

/-!
Assembly text, read back. A line is cut into words at its blanks, its commas left out: the first
word is the name of the operation and the others are its operands. What is printed for an
instruction is read as that instruction, so that no two of them look the same, and a listing of a
program has the whole program in it.
-/

namespace Chip8

/-- A list is read back if each of its members is. -/
theorem mapM_map_eq_some {α β : Type} {write : α → β} {read? : β → Option α} {l : List α}
    (h : ∀ a ∈ l, read? (write a) = some a) : (l.map write).mapM read? = some l := by
  induction l with
  | nil => rfl
  | cons a l ih =>
      obtain ⟨ha, hrest⟩ := List.forall_mem_cons.1 h
      rw [List.map_cons, List.mapM_cons, ha, ih hrest]
      rfl

namespace Text

/-! ### Words -/

/-- What divides the parts of a listing from each other. -/
def dividers : List Char := [' ', ',', '\n', '\r']

/-- The text is one part of a listing, or lies within one. -/
def Plain (s : List Char) : Prop :=
  ∀ c ∈ s, c ∉ dividers

instance (s : List Char) : Decidable (Plain s) :=
  List.decidableBAll _ _

variable {s : List Char}

theorem Plain.not_mem (h : Plain s) {c : Char} (hc : c ∈ dividers) : c ∉ s :=
  fun hmem => h c hmem hc

theorem plain_append {s rest : List Char} : Plain (s ++ rest) ↔ Plain s ∧ Plain rest :=
  List.forall_mem_append

theorem plain_fixedHex (width n : Nat) : Plain (fixedHex width n).toList := by
  have hdigit : ∀ d < 16, hexDigit d ∉ dividers := by decide
  rw [fixedHex, String.toList_ofList]
  exact List.forall_mem_map.2 fun d hd => hdigit d (lt_of_mem_nibbles hd)

/-- The words of a line: what blanks divide, without commas. -/
def words (line : List Char) : List (List Char) :=
  fields ' ' (line.filter (· != ','))

theorem Plain.filter_comma (h : Plain s) : s.filter (· != ',') = s :=
  List.filter_eq_self.2 fun c hc => by
    rw [bne_iff_ne]
    rintro rfl
    exact h ',' hc (by decide)

theorem words_of_plain (h : Plain s) : words s = [s] := by
  rw [words, h.filter_comma, fields_of_not_mem (h.not_mem (by decide))]

theorem words_append_blank (h : Plain s) (rest : List Char) :
    words (s ++ ' ' :: rest) = s :: words rest := by
  rw [words, List.filter_append, h.filter_comma, List.filter_cons_of_pos (by decide),
    fields_append_of_not_mem (h.not_mem (by decide))]
  rfl

theorem words_intercalate {part : List Char} {parts : List (List Char)}
    (h : ∀ p ∈ part :: parts, Plain p) :
    words ([',', ' '].intercalate (part :: parts)) = part :: parts := by
  induction parts generalizing part with
  | nil =>
      rw [List.intercalate_singleton]
      exact words_of_plain (h part List.mem_cons_self)
  | cons next parts ih =>
      obtain ⟨hpart, hrest⟩ := List.forall_mem_cons.1 h
      have hskip : words (part ++ [',', ' '] ++ [',', ' '].intercalate (next :: parts)) =
          words (part ++ ' ' :: [',', ' '].intercalate (next :: parts)) := by
        simp [words]
      rw [List.intercalate_cons_cons, hskip, words_append_blank hpart, ih hrest]

/-- Only blanks and commas are lost. -/
theorem exists_mem_words {line : List Char} {c : Char} (hmem : c ∈ line) (hblank : c ≠ ' ')
    (hcomma : c ≠ ',') : ∃ word ∈ words line, c ∈ word :=
  exists_mem_fields (List.mem_filter.2 ⟨hmem, by simp [hcomma]⟩) hblank

end Text

namespace Operand

/-! ### Operands -/

/-- An operand that an instruction can have: an address has twelve bits. -/
def Valid : Operand → Prop
  | address nnn => nnn.toNat < 0x1000
  | _ => True

/-- The operand that a word stands for. -/
def read? : List Char → Option Operand
  | ['I'] => some index
  | ['[', 'I', ']'] => some memory
  | ['D', 'T'] => some delay
  | ['S', 'T'] => some sound
  | ['K'] => some key
  | ['F'] => some glyph
  | ['B'] => some digits
  | ['V', x] => do return register (Fin.ofNat 16 (← Text.hexValue? x))
  | ['0', 'x', hi, lo] => do
    return byte (UInt8.ofNat (16 * (← Text.hexValue? hi) + (← Text.hexValue? lo)))
  | ['0', 'x', hi, mid, lo] => do
    return address (UInt16.ofNat
      (256 * (← Text.hexValue? hi) + 16 * (← Text.hexValue? mid) + (← Text.hexValue? lo)))
  | word => (Text.digits? word).map fun n => count (Fin.ofNat 16 n)

theorem read?_text {o : Operand} (h : o.Valid) : read? o.text.toList = some o := by
  have hdigit (n : Nat) : Text.hexValue? (Text.hexDigit (n % 16)) = some (n % 16) :=
    Text.hexValue?_hexDigit _ (Nat.mod_lt _ (by decide))
  cases o with
  | register x =>
      have htext : (register x).text.toList = ['V', Text.hexDigit (x.val % 16)] := by
        simp [text, Text.fixedHex, Text.nibbles]
      rw [htext, read?, hdigit, Nat.mod_eq_of_lt x.isLt]
      exact congrArg (some <| register ·) (Fin.ofNat_val_eq_self x)
  | byte nn =>
      have hnn := nn.toNat_lt
      have htext : (byte nn).text.toList =
          ['0', 'x', Text.hexDigit (nn.toNat / 16 % 16), Text.hexDigit (nn.toNat % 16)] := by
        simp [text, Text.fixedHex, Text.nibbles]
      have hvalue : 16 * (nn.toNat / 16 % 16) + nn.toNat % 16 = nn.toNat := by omega
      rw [htext, read?, hdigit, hdigit]
      show some (byte (UInt8.ofNat _)) = _
      rw [hvalue, UInt8.ofNat_toNat]
  | address nnn =>
      have hnnn : nnn.toNat < 16 ^ 3 := h
      have htext : (address nnn).text.toList =
          ['0', 'x', Text.hexDigit (nnn.toNat / 256 % 16), Text.hexDigit (nnn.toNat / 16 % 16),
            Text.hexDigit (nnn.toNat % 16)] := by
        simp [text, Text.paddedHex_of_lt (by decide) hnnn, Text.fixedHex, Text.nibbles,
          Nat.div_div_eq_div_mul]
      have hvalue : 256 * (nnn.toNat / 256 % 16) + 16 * (nnn.toNat / 16 % 16) + nnn.toNat % 16 =
          nnn.toNat := by omega
      rw [htext, read?, hdigit, hdigit, hdigit]
      show some (address (UInt16.ofNat _)) = _
      rw [hvalue, UInt16.ofNat_toNat]
  | count n =>
      have hall : ∀ n : Nibble, read? (toString n.val).toList = some (count n) := by decide
      exact hall n
  | _ => rfl

theorem plain_text (o : Operand) : Text.Plain o.text.toList := by
  cases o with
  | register x =>
      rw [text, String.toList_append]
      exact Text.plain_append.2 ⟨by decide, Text.plain_fixedHex _ _⟩
  | byte nn =>
      rw [text, String.toList_append]
      exact Text.plain_append.2 ⟨by decide, Text.plain_fixedHex _ _⟩
  | address nnn =>
      rw [text, String.toList_append]
      exact Text.plain_append.2 ⟨by decide, Text.plain_fixedHex _ _⟩
  | count n =>
      have hcount : ∀ n : Nibble, Text.Plain (toString n.val).toList := by decide
      exact hcount n
  | index | memory | delay | sound | key | glyph | digits => decide

end Operand

namespace Instruction

variable {i j : Instruction}

/-! ### Lines -/

theorem plain_operation (i : Instruction) : Text.Plain i.operation.toList := by
  unfold operation
  split <;> decide

theorem plain_of_mem_operands {part : List Char}
    (h : part ∈ i.operands.map (·.text.toList)) : Text.Plain part := by
  obtain ⟨o, -, rfl⟩ := List.mem_map.1 h
  exact o.plain_text

theorem words_mnemonic (i : Instruction) :
    Text.words i.mnemonic.toList = i.operation.toList :: i.operands.map (·.text.toList) := by
  have hparts (part : List Char) : part ∈ i.operands.map (·.text.toList) → Text.Plain part :=
    plain_of_mem_operands
  unfold mnemonic
  rcases hoperands : i.operands with _ | ⟨o, operands⟩
  · exact Text.words_of_plain i.plain_operation
  · rw [hoperands] at hparts
    show Text.words (i.operation ++ " " ++ _).toList = _
    rw [String.toList_append, String.toList_append, String.toList_intercalate, List.map_map,
      List.append_assoc]
    show Text.words (i.operation.toList ++ ' ' :: [',', ' '].intercalate _) = _
    rw [Text.words_append_blank i.plain_operation]
    exact congrArg _ (Text.words_intercalate hparts)

/-- The instruction with the given operation and operands. -/
def ofParts? : String → List Operand → Option Instruction
  | "SYS", [.address nnn] => some (.sys nnn)
  | "CLS", [] => some .clear
  | "RET", [] => some .ret
  | "JP", [.address nnn] => some (.jump nnn)
  | "JP", [.register _, .address nnn] => some (.jumpOffset nnn)
  | "CALL", [.address nnn] => some (.call nnn)
  | "SE", [.register x, .byte nn] => some (.skipEqImm x nn)
  | "SE", [.register x, .register y] => some (.skipEqReg x y)
  | "SNE", [.register x, .byte nn] => some (.skipNeImm x nn)
  | "SNE", [.register x, .register y] => some (.skipNeReg x y)
  | "LD", [.register x, .byte nn] => some (.loadImm x nn)
  | "LD", [.register x, .register y] => some (.loadReg x y)
  | "LD", [.index, .address nnn] => some (.loadIndex nnn)
  | "LD", [.register x, .delay] => some (.loadDelay x)
  | "LD", [.register x, .key] => some (.waitKey x)
  | "LD", [.delay, .register x] => some (.setDelay x)
  | "LD", [.sound, .register x] => some (.setSound x)
  | "LD", [.glyph, .register x] => some (.loadGlyph x)
  | "LD", [.digits, .register x] => some (.storeBcd x)
  | "LD", [.memory, .register x] => some (.storeRegs x)
  | "LD", [.register x, .memory] => some (.loadRegs x)
  | "ADD", [.register x, .byte nn] => some (.addImm x nn)
  | "ADD", [.register x, .register y] => some (.addReg x y)
  | "ADD", [.index, .register x] => some (.addIndex x)
  | "OR", [.register x, .register y] => some (.or x y)
  | "AND", [.register x, .register y] => some (.and x y)
  | "XOR", [.register x, .register y] => some (.xor x y)
  | "SUB", [.register x, .register y] => some (.subReg x y)
  | "SHR", [.register x, .register y] => some (.shiftRight x y)
  | "SUBN", [.register x, .register y] => some (.subFromReg x y)
  | "SHL", [.register x, .register y] => some (.shiftLeft x y)
  | "RND", [.register x, .byte nn] => some (.random x nn)
  | "DRW", [.register x, .register y, .count n] => some (.draw x y n)
  | "SKP", [.register x] => some (.skipKey x)
  | "SKNP", [.register x] => some (.skipNotKey x)
  | _, _ => none

theorem ofParts?_parts (i : Instruction) : ofParts? i.operation i.operands = some i := by
  cases i <;> rfl

/-- The instruction that a line of assembly text writes. -/
def assemble? (line : List Char) : Option Instruction :=
  match Text.words line with
  | [] => none
  | operation :: operands => do
    ofParts? (String.ofList operation) (← operands.mapM Operand.read?)

theorem valid_of_mem_operands (h : i.WellFormed) : ∀ o ∈ i.operands, o.Valid := by
  cases i with
  | sys nnn => exact List.forall_mem_singleton.2 h.1
  | jump nnn | call nnn => exact List.forall_mem_singleton.2 h
  | loadIndex nnn | jumpOffset nnn =>
      exact List.forall_mem_cons.2 ⟨trivial, List.forall_mem_singleton.2 h⟩
  | _ => simp [operands, Operand.Valid]

/-- Printing is injective, because what is printed can be read. -/
theorem assemble?_mnemonic (h : i.WellFormed) : assemble? i.mnemonic.toList = some i := by
  rw [assemble?, words_mnemonic]
  show Option.bind (List.mapM _ _) _ = _
  rw [mapM_map_eq_some fun o ho => Operand.read?_text (valid_of_mem_operands h o ho)]
  show ofParts? (String.ofList i.operation.toList) i.operands = _
  rw [String.ofList_toList, ofParts?_parts]

/-! ### Listings -/

/-- A line of assembly text for each instruction. -/
def listing (program : List Instruction) : String :=
  String.join (program.map fun i => i.mnemonic ++ "\n")

theorem not_mem_mnemonic {c : Char} (hc : c ∈ Text.dividers) (hblank : c ≠ ' ')
    (hcomma : c ≠ ',') (i : Instruction) : c ∉ i.mnemonic.toList := by
  intro hmem
  obtain ⟨word, hword, hin⟩ := Text.exists_mem_words hmem hblank hcomma
  rw [words_mnemonic] at hword
  rcases List.mem_cons.1 hword with rfl | hoperand
  · exact i.plain_operation.not_mem hc hin
  · exact (plain_of_mem_operands hoperand).not_mem hc hin

theorem lines_listing (program : List Instruction) :
    Text.lines (listing program).toList = program.map (·.mnemonic.toList) := by
  rw [listing, String.toList_join, List.flatMap_map]
  induction program with
  | nil => rfl
  | cons i program ih =>
      have hfeed := not_mem_mnemonic (c := '\n') (by decide) (by decide) (by decide) i
      have hreturn := not_mem_mnemonic (c := '\r') (by decide) (by decide) (by decide) i
      rw [List.flatMap_cons, String.toList_append, List.append_assoc]
      obtain ⟨line, hlines, rfl | hends⟩ := Text.lines_append_lineFeed hfeed
        (program.flatMap fun i => (i.mnemonic ++ "\n").toList)
      · exact hlines.trans (congrArg _ ih)
      · exact absurd (hends ▸ List.mem_append_right _ (List.mem_singleton_self _)) hreturn

/-- The program that a listing is made of. -/
def assembleAll? (text : String) : Option (List Instruction) :=
  (Text.lines text.toList).mapM assemble?

theorem assembleAll?_listing {program : List Instruction} (h : ∀ i ∈ program, i.WellFormed) :
    assembleAll? (listing program) = some program := by
  rw [assembleAll?, lines_listing]
  exact mapM_map_eq_some fun i hi => assemble?_mnemonic (h i hi)

/-! ### Words and text -/

/-- The listing of a program, if all its words are instructions. -/
def disassemble? (words : List UInt16) : Option String :=
  (words.mapM decode?).map listing

theorem decode_eq_ok_iff {word addr : UInt16} :
    decode word addr = .ok i ↔ decode? word = some i := by
  rw [decode]
  cases decode? word <;> simp

theorem encoded_of_mapM_decode? {words : List UInt16} {program : List Instruction}
    (h : words.mapM decode? = some program) :
    program.map encode = words ∧ ∀ i ∈ program, i.WellFormed := by
  induction words generalizing program with
  | nil =>
      cases h
      exact ⟨rfl, List.forall_mem_nil _⟩
  | cons word words ih =>
      rw [List.mapM_cons] at h
      obtain ⟨i, hi, h⟩ := Option.bind_eq_some_iff.1 h
      obtain ⟨rest, hrest, h⟩ := Option.bind_eq_some_iff.1 h
      cases h
      obtain ⟨hencode, hformed⟩ := ih hrest
      refine ⟨?_, List.forall_mem_cons.2 ⟨wellFormed_of_decode? hi, hformed⟩⟩
      rw [List.map_cons, encode_of_decode? hi, hencode]

/-- Nothing is lost between words, instructions and text. A word that is read is written again, an
instruction that is well formed is read again, two words are never printed alike, and neither are
two programs. -/
theorem decode_lossless :
    (∀ word addr i, decode word addr = .ok i → i.encode = word) ∧
    (∀ i addr, i.WellFormed → decode i.encode addr = .ok i) ∧
    (∀ v w a b i j, decode v a = .ok i → decode w b = .ok j → v ≠ w → i.mnemonic ≠ j.mnemonic) ∧
    ∀ p q text, disassemble? p = some text → disassemble? q = some text → p = q := by
  refine ⟨fun word addr i h => ?_, fun i addr h => ?_, fun v w a b i j hv hw hne hsame => ?_,
    fun p q text hp hq => ?_⟩
  · exact encode_of_decode? (decode_eq_ok_iff.1 h)
  · exact decode_eq_ok_iff.2 (decode?_encode h)
  · have hv := decode_eq_ok_iff.1 hv
    have hw := decode_eq_ok_iff.1 hw
    have hi := assemble?_mnemonic (wellFormed_of_decode? hv)
    rw [hsame, assemble?_mnemonic (wellFormed_of_decode? hw)] at hi
    cases hi
    exact hne ((encode_of_decode? hv).symm.trans (encode_of_decode? hw))
  · obtain ⟨program, hprogram, rfl⟩ := Option.map_eq_some_iff.1 hp
    obtain ⟨program', hprogram', hsame⟩ := Option.map_eq_some_iff.1 hq
    obtain ⟨hencode, hformed⟩ := encoded_of_mapM_decode? hprogram
    obtain ⟨hencode', hformed'⟩ := encoded_of_mapM_decode? hprogram'
    have hread := assembleAll?_listing hformed
    rw [← hsame, assembleAll?_listing hformed'] at hread
    cases hread
    exact hencode.symm.trans hencode'

/-- `LD V1, 0x20` and `LD V1, V2` are told apart, and so are the programs of them. -/
theorem decode_lossless_loads :
    decode 0x6120 0x200 = .ok (.loadImm 1 0x20) ∧ decode 0x8120 0x202 = .ok (.loadReg 1 2) ∧
      (loadReg 1 2).WellFormed ∧ encode (loadImm 1 0x20) = 0x6120 ∧
      decode (encode (loadReg 1 2)) 0x200 = .ok (.loadReg 1 2) ∧
      (loadImm 1 0x20).mnemonic ≠ (loadReg 1 2).mnemonic ∧
      disassemble? [0x6120, 0x8120] = some "LD V1, 0x20\nLD V1, V2\n" ∧
      disassemble? [0x8120, 0x6120] ≠ some "LD V1, 0x20\nLD V1, V2\n" := by
  obtain ⟨hencode, hdecode, hmnemonic, hprograms⟩ := decode_lossless
  have himm : decode 0x6120 0x200 = .ok (.loadImm 1 0x20) := rfl
  have hreg : decode 0x8120 0x202 = .ok (.loadReg 1 2) := rfl
  have hlisting : disassemble? [0x6120, 0x8120] = some "LD V1, 0x20\nLD V1, V2\n" := by decide
  refine ⟨himm, hreg, trivial, hencode _ _ _ himm, hdecode _ _ trivial, ?_, hlisting, ?_⟩
  · exact hmnemonic _ _ _ _ _ _ himm hreg (by decide)
  · intro hswapped
    have hsame := hprograms _ _ _ hlisting hswapped
    revert hsame
    decide

end Instruction

end Chip8
