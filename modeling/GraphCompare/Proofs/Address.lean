import GraphCompare.Failure
import GraphCompare.Proofs.Text.Positional
import GraphCompare.Proofs.Text.Trimming

/-! The texts of addresses: which of them are read, and as what; and the one that is written, which
is read back and keeps the order of the addresses. -/
namespace GraphCompare.Address
variable {a b : Address} {base n m : Nat} {cs mark sign : List Char} {s : String}

/-- How the base of a numeral is marked in front of it. -/
def Marks (mark : List Char) (base : Nat) : Prop :=
  (mark = [] ∧ base = 10) ∨ ((mark = ['0', 'x'] ∨ mark = ['0', 'X']) ∧ base = 16)

/-- A numeral behind its mark, with a plus before its digits or without. -/
def Literal (cs : List Char) (n : Nat) : Prop :=
  ∃ mark sign digits base, cs = mark ++ (sign ++ digits) ∧ Marks mark base ∧
    (sign = [] ∨ sign = ['+']) ∧ Numeral.Denotes base digits n

/-- A literal with blanks around it. -/
def Spells (cs : List Char) (n : Nat) : Prop :=
  ∃ pre body post, Text.Blanks pre ∧ Text.Blanks post ∧ cs = pre ++ body ++ post ∧ Literal body n

section reading

theorem base_le (h : Marks mark base) : base ≤ 16 := by
  rcases h with ⟨-, rfl⟩ | ⟨-, rfl⟩ <;> decide

theorem exists_mark (cs : List Char) :
    ∃ mark, cs = mark ++ (splitBase cs).2 ∧ Marks mark (splitBase cs).1 := by
  unfold splitBase
  split
  · exact ⟨['0', 'x'], rfl, .inr ⟨.inl rfl, rfl⟩⟩
  · exact ⟨['0', 'X'], rfl, .inr ⟨.inr rfl, rfl⟩⟩
  · exact ⟨[], rfl, .inl ⟨rfl, rfl⟩⟩

theorem exists_sign (cs : List Char) :
    ∃ sign, cs = sign ++ dropPlus cs ∧ (sign = [] ∨ sign = ['+']) := by
  unfold dropPlus
  split
  · exact ⟨['+'], rfl, .inr rfl⟩
  · exact ⟨[], rfl, .inl rfl⟩

theorem splitBase_append (h : Marks mark base) (hcs : ∀ c ∈ cs, c ≠ 'x' ∧ c ≠ 'X') :
    splitBase (mark ++ cs) = (base, cs) := by
  rcases h with ⟨rfl, rfl⟩ | ⟨rfl | rfl, rfl⟩
  · unfold splitBase
    rw [List.nil_append]
    split
    · simp at hcs
    · simp at hcs
    · rfl
  · rfl
  · rfl

theorem dropPlus_append (h : sign = [] ∨ sign = ['+']) (hcs : ∀ c ∈ cs, c ≠ '+') :
    dropPlus (sign ++ cs) = cs := by
  rcases h with rfl | rfl
  · unfold dropPlus
    rw [List.nil_append]
    split
    · simp at hcs
    · rfl
  · rfl

/-- What is read after the mark and the plus is a literal's number. -/
theorem literal_iff : Literal cs n ↔
    Numeral.read? (splitBase cs).1 (dropPlus (splitBase cs).2) = some n := by
  constructor
  · rintro ⟨mark, sign, digits, base, rfl, hmark, hsign, hdigits⟩
    have hplain := Numeral.plain_of_denotes (base_le hmark) hdigits
    have hletters : ∀ c ∈ sign ++ digits, c ≠ 'x' ∧ c ≠ 'X' := by
      intro c hc
      rcases List.mem_append.mp hc with hc | hc
      · rcases hsign with rfl | rfl
        · cases hc
        · rw [List.mem_singleton.mp hc]
          decide
      · exact (hplain c hc).2.2
    rw [splitBase_append hmark hletters, dropPlus_append hsign fun c hc => (hplain c hc).2.1]
    exact (Numeral.read?_eq_some_iff (base_le hmark)).mpr hdigits
  · intro h
    obtain ⟨mark, hcs, hmark⟩ := exists_mark cs
    obtain ⟨sign, hrest, hsign⟩ := exists_sign (splitBase cs).2
    refine ⟨mark, sign, _, _, ?_, hmark, hsign, (Numeral.read?_eq_some_iff (base_le hmark)).mp h⟩
    rwa [← hrest]

theorem no_blank_of_literal (h : Literal cs n) : ∀ c ∈ cs, Text.isBlank c = false := by
  obtain ⟨mark, sign, digits, base, rfl, hmark, hsign, hdigits⟩ := h
  have hmarks : ∀ c ∈ mark, c = '0' ∨ c = 'x' ∨ c = 'X' := by
    rcases hmark with ⟨rfl, -⟩ | ⟨rfl | rfl, -⟩ <;> simp
  have hsigns : ∀ c ∈ sign, c = '+' := by
    rcases hsign with rfl | rfl <;> simp
  intro c hc
  rw [List.mem_append, List.mem_append] at hc
  rcases hc with hc | hc | hc
  · rcases hmarks c hc with rfl | rfl | rfl <;> decide
  · obtain rfl := hsigns c hc
    decide
  · exact (Numeral.plain_of_denotes (base_le hmark) hdigits c hc).1

/-- A literal has no blanks, so that it is what trimming leaves. -/
theorem spells_iff : Spells cs n ↔ Literal (Text.trim cs) n := by
  constructor
  · rintro ⟨pre, body, post, hpre, hpost, rfl, h⟩
    rwa [Text.trim_append hpre hpost, Text.trim_of_no_blank (no_blank_of_literal h)]
  · intro h
    obtain ⟨pre, post, hpre, hpost, hcs⟩ := Text.exists_padding cs
    exact ⟨pre, _, post, hpre, hpost, hcs, h⟩

theorem spells_unique (hn : Spells cs n) (hm : Spells cs m) : n = m := by
  rw [spells_iff, literal_iff] at hn hm
  exact Option.some.inj (hn.symm.trans hm)

theorem ofChars?_eq_some_iff : ofChars? cs = some a ↔ Spells cs a.value.toNat := by
  rw [spells_iff, literal_iff]
  simp only [ofChars?, Option.bind_eq_bind, Option.bind_eq_some_iff]
  constructor
  · rintro ⟨n, hn, ha⟩
    split at ha
    · rename_i hlt
      cases ha
      rwa [show n.toUInt64.toNat = n from UInt64.toNat_ofNat_of_lt' hlt]
    · cases ha
  · intro h
    refine ⟨_, h, ?_⟩
    rw [if_pos a.value.toNat_lt_size]
    simp

theorem parse_eq_ok_iff : parse s = .ok a ↔ Spells s.toList a.value.toNat := by
  rw [← ofChars?_eq_some_iff, parse, ofText?]
  cases ofChars? s.toList <;> simp

theorem parse_eq_error (h : ∀ a : Address, ¬ Spells s.toList a.value.toNat) :
    parse s = .error ⟨s⟩ := by
  rw [parse, ofText?]
  cases hs : ofChars? s.toList with
  | none => rfl
  | some a => exact (h a (ofChars?_eq_some_iff.mp hs)).elim

/-- What is too large is refused. -/
theorem parse_of_overflow (h : Spells s.toList n) (hn : 2 ^ 64 ≤ n) : parse s = .error ⟨s⟩ := by
  apply parse_eq_error
  intro a ha
  have hlt := a.value.toNat_lt
  rw [spells_unique ha h] at hlt
  omega

end reading

section writing

theorem spells_of_literal (h : Literal cs n) : Spells cs n :=
  ⟨[], cs, [], by simp [Text.Blanks], by simp [Text.Blanks], by simp, h⟩

theorem parse_of_literal (h : Literal s.toList a.value.toNat) : parse s = .ok a :=
  parse_eq_ok_iff.mpr (spells_of_literal h)

/-- The digits that the text of an address shows. -/
def digits (a : Address) : List Nat := Numeral.fixed 16 a.width a.value.toNat

theorem toList_text (a : Address) : a.text.toList = a.digits.map Numeral.upperChar :=
  String.toList_ofList

theorem length_digits (a : Address) : a.digits.length = a.width := Numeral.length_fixed _ _ _

theorem lt_of_mem_digits {d : Nat} (h : d ∈ a.digits) : d < 16 :=
  Numeral.lt_of_mem_fixed (by decide) h

/-- The digits are enough for the value. -/
theorem value_digits (a : Address) : Numeral.value 16 a.digits = a.value.toNat := by
  rw [digits, Numeral.value_fixed]
  apply Nat.mod_eq_of_lt
  have hlt := a.value.toNat_lt
  unfold width
  split
  · assumption
  · exact hlt

theorem length_text (a : Address) : a.text.length = a.width := by
  rw [← String.length_toList, toList_text, List.length_map, length_digits]

theorem mem_text {c : Char} (h : c ∈ a.text.toList) : c ∈ "0123456789ABCDEF".toList := by
  have hchar : ∀ d < 16, Numeral.upperChar d ∈ "0123456789ABCDEF".toList := by decide
  rw [toList_text] at h
  obtain ⟨d, hd, rfl⟩ := List.mem_map.mp h
  exact hchar d (lt_of_mem_digits hd)

theorem denotes_text (a : Address) : Numeral.Denotes 16 a.text.toList a.value.toNat := by
  have hwidth : 0 < a.width := by
    unfold width
    split <;> decide
  have hdenotes : Numeral.Denotes 16 (a.digits.map Numeral.upperChar)
      (Numeral.value 16 a.digits) := by
    refine Numeral.denotes_map (List.ne_nil_of_length_pos (by rwa [length_digits])) fun d hd => ?_
    exact (Numeral.stands_iff (by decide)).mpr ⟨lt_of_mem_digits hd, .inr rfl⟩
  rwa [value_digits, ← toList_text] at hdenotes

/-- A text denotes one number only. -/
theorem text_injective (h : a.text = b.text) : a = b := by
  have hb := denotes_text b
  rw [← h] at hb
  have hvalue := Numeral.denotes_unique (by decide) (denotes_text a) hb
  exact congrArg Address.mk (UInt64.toNat_inj.mp hvalue)

/-- Texts of one length are in the order of the addresses. -/
theorem text_lt_iff (h : a.text.length = b.text.length) : a.text < b.text ↔ a.value < b.value := by
  have ha : ∀ d ∈ a.digits, d < 16 := fun _ => lt_of_mem_digits
  have hb : ∀ d ∈ b.digits, d < 16 := fun _ => lt_of_mem_digits
  have hlength : a.digits.length = b.digits.length := by
    rwa [length_digits, length_digits, ← length_text, ← length_text]
  calc a.text < b.text
    _ ↔ a.digits.map Numeral.upperChar < b.digits.map Numeral.upperChar := by
      rw [String.lt_iff, toList_text, toList_text]
    _ ↔ a.digits < b.digits := Numeral.map_upperChar_lt_iff ha hb
    _ ↔ Numeral.value 16 a.digits < Numeral.value 16 b.digits :=
      Numeral.lt_iff_value_lt (by decide) hlength ha hb
    _ ↔ a.value < b.value := by rw [value_digits, value_digits, UInt64.lt_iff_toNat_lt]

/-- The shorter text belongs to the smaller address. -/
theorem value_lt_of_length_lt (h : a.text.length < b.text.length) : a.value < b.value := by
  rw [length_text, length_text] at h
  unfold width at h
  rw [UInt64.lt_iff_toNat_lt]
  split at h <;> split at h <;> omega

theorem value_lt_iff : a.value < b.value ↔
    a.text.length < b.text.length ∨ (a.text.length = b.text.length ∧ a.text < b.text) := by
  rcases Nat.lt_trichotomy a.text.length b.text.length with hlt | heq | hgt
  · exact iff_of_true (value_lt_of_length_lt hlt) (.inl hlt)
  · rw [text_lt_iff heq]
    simp [heq]
  · have hgt' := value_lt_of_length_lt hgt
    refine iff_of_false (UInt64.lt_asymm hgt') ?_
    omega

theorem parse_hex (a : Address) {mark : String} (h : mark = "0x" ∨ mark = "0X") :
    parse (mark ++ a.text) = .ok a := by
  apply parse_of_literal
  rw [String.toList_append]
  refine ⟨mark.toList, [], a.text.toList, 16, rfl, .inr ⟨?_, rfl⟩, .inl rfl, denotes_text a⟩
  rcases h with rfl | rfl
  · exact .inl rfl
  · exact .inr rfl

theorem parse_decimal (a : Address) : parse (toString a.value) = .ok a := by
  apply parse_of_literal
  have hchars : (toString a.value).toList = Numeral.decimal a.value.toNat := by
    rw [Numeral.decimal_eq_toDigits]
    exact Nat.toList_repr
  rw [hchars]
  exact ⟨[], [], _, 10, rfl, .inl ⟨rfl, rfl⟩, .inl rfl, Numeral.denotes_decimal _⟩

end writing

theorem parse_padded {pre post : List Char} (hpre : Text.Blanks pre) (hpost : Text.Blanks post) :
    parse (String.ofList pre ++ s ++ String.ofList post) = .ok a ↔ parse s = .ok a := by
  rw [parse_eq_ok_iff, parse_eq_ok_iff, spells_iff, spells_iff, String.toList_append,
    String.toList_append, String.toList_ofList, String.toList_ofList, Text.trim_append hpre hpost]

/-- The texts of addresses that are read, and the one that is written. -/
structure TextCodec : Prop where
  parse_iff : ∀ s a, parse s = .ok a ↔ Spells s.toList a.value.toNat
  /-- Everything else is refused, and so is a number that is too large. -/
  refused : ∀ s, (∀ n < 2 ^ 64, ¬ Spells s.toList n) → parse s = .error ⟨s⟩
  overflow : ∀ s n, Spells s.toList n → 2 ^ 64 ≤ n → parse s = .error ⟨s⟩
  padded_iff : ∀ s a pre post, Text.Blanks pre → Text.Blanks post →
    (parse (String.ofList pre ++ s ++ String.ofList post) = .ok a ↔ parse s = .ok a)
  reads_hex : ∀ (a : Address) (mark : String), mark = "0x" ∨ mark = "0X" →
    parse (mark ++ toString a) = .ok a
  reads_decimal : ∀ a : Address, parse (toString a.value) = .ok a
  injective : Function.Injective text
  upper_hex : ∀ a : Address, ∀ c ∈ a.text.toList, c ∈ "0123456789ABCDEF".toList
  length_eq : ∀ a : Address, a.text.length = if a.value.toNat < 2 ^ 32 then 8 else 16
  lt_iff : ∀ a b : Address, a.value < b.value ↔
    a.text.length < b.text.length ∨ (a.text.length = b.text.length ∧ a.text < b.text)

/-- Reading finds the number of every literal below the bound, and the text of an address among
them. -/
theorem textCodec : TextCodec where
  parse_iff _ _ := parse_eq_ok_iff
  refused _ h := parse_eq_error fun a => h _ a.value.toNat_lt
  overflow _ _ := parse_of_overflow
  padded_iff _ _ _ _ := parse_padded
  reads_hex a _ := parse_hex a
  reads_decimal := parse_decimal
  injective _ _ := text_injective
  upper_hex _ _ := mem_text
  length_eq := length_text
  lt_iff _ _ := value_lt_iff

end GraphCompare.Address
