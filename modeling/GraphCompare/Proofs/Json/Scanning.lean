import GraphCompare.Json.Printer
import GraphCompare.Json.Token
import GraphCompare.Proofs.Text.Digits
import Mathlib.Data.List.TakeWhile

/-! Scanning a printed value: the tokens that come out are those of the value, if its numbers are
read back as they are spelled. -/
namespace GraphCompare

section folding
variable {α σ : Type} {f : σ → α → Option σ} {a : α} {before after : List α} {s s' : σ}

theorem foldlM_cons_of_eq_some (h : f s a = some s') :
    (a :: after).foldlM f s = after.foldlM f s' := by
  rw [List.foldlM_cons, h]
  rfl

theorem foldlM_singleton (f : σ → α → Option σ) (s : σ) (a : α) : [a].foldlM f s = f s a := by
  simp

theorem foldlM_append_of_eq_some (h : before.foldlM f s = some s') :
    (before ++ after).foldlM f s = after.foldlM f s' := by
  rw [List.foldlM_append, h]
  rfl

end folding

namespace Json
variable {s : Scan} {done : List Token} {c : Char} {cs : List Char} {t : Token} {u : Nat}
  {us ds : List Nat}

namespace Literal
open Numeral (lowerChar)

theorem spanDigits_lowerChar (h : ∀ d ∈ ds, d < 10) : spanDigits (ds.map lowerChar) = (ds, []) := by
  have hdigit : ∀ c ∈ ds.map lowerChar, c.isDigit = true := by
    intro c hc
    obtain ⟨d, hd, rfl⟩ := List.mem_map.mp hc
    exact Numeral.isDigit_lowerChar d (h d hd)
  have hvalue : (ds.map lowerChar).map (fun c => c.toNat - 48) = ds := by
    rw [List.map_map]
    refine (List.map_congr_left fun d hd => ?_).trans (List.map_id ds)
    exact Numeral.toNat_lowerChar d (h d hd)
  rw [spanDigits, List.takeWhile_eq_self_iff.mpr hdigit, List.dropWhile_eq_nil_iff.mpr hdigit,
    hvalue]

theorem sign_of_isDigit (h : c.isDigit = true) : sign (c :: cs) = (false, c :: cs) := by
  unfold sign
  split
  · rename_i heq
    cases heq
    cases h
  · rfl

/-- The digits of a number that fits are all taken into the significand. -/
theorem gather_of_lt {n : Nat} (h : ds.foldl (fun n d => n * 10 + d) n < UInt64.size) :
    gather n ds = (ds.foldl (fun n d => n * 10 + d) n, []) := by
  induction ds generalizing n with
  | nil => rfl
  | cons d ds ih =>
    have hfits : n * 10 + d < UInt64.size :=
      Nat.lt_of_le_of_lt (Numeral.le_foldl (by decide) ds _) h
    rw [gather, if_pos hfits]
    exact ih h

theorem parse?_decimal (n : Nat) :
    parse? (Numeral.decimal n) = some ⟨false, Numeral.digits 10 n, [], none⟩ := by
  obtain ⟨c, cs, hcs, hdigit⟩ := Numeral.exists_decimal n
  obtain ⟨d, ds, hds, hzero⟩ := Numeral.exists_digits (b := 10) (by decide) n
  have hsign : sign (Numeral.decimal n) = (false, Numeral.decimal n) := by
    rw [hcs]
    exact sign_of_isDigit hdigit
  have hspan : spanDigits (Numeral.decimal n) = (Numeral.digits 10 n, []) :=
    spanDigits_lowerChar fun _ => Numeral.lt_of_mem_digits (by decide)
  have hwhole : wholeOk (Numeral.digits 10 n) = true := by
    rw [hds]
    rcases hzero with rfl | hd
    · rfl
    · cases ds <;> simp [wholeOk, hd]
  unfold parse?
  rw [hsign]
  dsimp only
  rw [hspan]
  dsimp only
  rw [hwhole]
  rfl

theorem value?_digits {n : Nat} (h : n < UInt64.size) :
    value? ⟨false, Numeral.digits 10 n, [], none⟩ = some (.unsigned n.toUInt64) := by
  have hvalue : (Numeral.digits 10 n).foldl (fun n d => n * 10 + d) 0 = n :=
    Numeral.value_digits (by decide) n
  have hgather : gather 0 (Numeral.digits 10 n) = (n, []) := by
    rw [gather_of_lt (hvalue.symm ▸ h), hvalue]
  simp [value?, hgather]

end Literal

/-- A word that starts with a digit can only be a number. -/
theorem Token.ofWord?_of_isDigit (h : c.isDigit = true) :
    ofWord? (c :: cs) = (Literal.parse? (c :: cs)).map fun l => .number l.value? := by
  have hletter : c ≠ 'n' ∧ c ≠ 't' ∧ c ≠ 'f' := by
    refine ⟨?_, ?_, ?_⟩ <;>
    · rintro rfl
      cases h
  simp [ofWord?, hletter]

namespace Number

/-- Is spelled as a word that is read back as the same number. -/
structure Legible (n : Number) : Prop where
  isWordChar : ∀ c ∈ n.text, Token.isWordChar c = true
  ofWord?_eq : Token.ofWord? n.text = some (.number (some n))

theorem legible_unsigned (n : UInt64) : (unsigned n).Legible where
  isWordChar := by
    intro c hc
    obtain ⟨d, hd, rfl⟩ := List.mem_map.mp hc
    have hdigit := Numeral.isDigit_lowerChar d (Numeral.lt_of_mem_digits (by decide) hd)
    simp [Token.isWordChar, Char.isAlphanum, hdigit]
  ofWord?_eq := by
    obtain ⟨c, cs, hcs, hdigit⟩ := Numeral.exists_decimal n.toNat
    have hword : Token.ofWord? (Numeral.decimal n.toNat) =
        (Literal.parse? (Numeral.decimal n.toNat)).map fun l => .number l.value? := by
      rw [hcs]
      exact Token.ofWord?_of_isDigit hdigit
    change Token.ofWord? (Numeral.decimal n.toNat) = _
    rw [hword, Literal.parse?_decimal, Option.map_some, Literal.value?_digits n.toNat_lt]
    simp

end Number

mutual

/-- Every number in a value is legible. -/
def Legible : Json → Prop
  | .null => True
  | .bool _ => True
  | .number n => n.Legible
  | .string _ => True
  | .array items => ItemsLegible items
  | .object members => MembersLegible members

def ItemsLegible : List Json → Prop
  | [] => True
  | j :: rest => j.Legible ∧ ItemsLegible rest

def MembersLegible : List (String × Json) → Prop
  | [] => True
  | (_, j) :: rest => j.Legible ∧ MembersLegible rest

end

mutual

/-- The tokens of a value. -/
def tokens : Json → List Token
  | .null => [.null]
  | .bool b => [.bool b]
  | .number n => [.number (some n)]
  | .string s => [.string (some s)]
  | .array [] => [.openArray, .closeArray]
  | .array (j :: rest) => .openArray :: j.tokens ++ itemsTokens rest
  | .object [] => [.openObject, .closeObject]
  | .object ((k, j) :: rest) =>
    .openObject :: .string (some k) :: .colon :: j.tokens ++ membersTokens rest

/-- The tokens of the items after the first. -/
def itemsTokens : List Json → List Token
  | [] => [.closeArray]
  | j :: rest => .comma :: j.tokens ++ itemsTokens rest

/-- The tokens of the members after the first. -/
def membersTokens : List (String × Json) → List Token
  | [] => [.closeObject]
  | (k, j) :: rest => .comma :: .string (some k) :: .colon :: j.tokens ++ membersTokens rest

end

namespace Scan

/-- The tokens that have been completed, or are by whatever ends the word that is being read. -/
inductive Reaches : Scan → List Token → Prop
  | between (done : List Token) : Reaches ⟨done, .between⟩ done
  | word {done : List Token} {cs : List Char} {t : Token}
    (h : Token.ofWord? cs.reverse = some t) : Reaches ⟨done, .word cs⟩ (t :: done)

end Scan

namespace Token
open Scan (Reaches)

theorem step_of_reaches (h : Reaches s done) (hc : isWordChar c = false) :
    step s c = start done c := by
  cases h with
  | between => rfl
  | word h => simp [step, hc, h]

theorem finish_of_reaches (h : Reaches s done) : finish s = some done.reverse := by
  cases h with
  | between => rfl
  | word h => simp [finish, h]

theorem start_of_isWordChar (h : isWordChar c = true) (done : List Token) :
    start done c = some ⟨done, .word [c]⟩ := by
  have hne : ∀ x, isWordChar x = false → c ≠ x := by
    rintro x hx rfl
    cases h.symm.trans hx
  simp [start, isSpace, h, hne ' ' (by decide), hne '\t' (by decide), hne '\n' (by decide),
    hne '\r' (by decide), hne '[' (by decide), hne ']' (by decide), hne '\x7b' (by decide),
    hne '\x7d' (by decide), hne ',' (by decide), hne ':' (by decide), hne '"' (by decide)]

theorem foldlM_step_word (h : ∀ c ∈ cs, isWordChar c = true) (done : List Token)
    (before : List Char) :
    cs.foldlM step ⟨done, .word before⟩ = some ⟨done, .word (cs.reverse ++ before)⟩ := by
  induction cs generalizing before with
  | nil => rfl
  | cons c cs ih =>
    have hc : step ⟨done, .word before⟩ c = some ⟨done, .word (c :: before)⟩ := by
      simp [step, h c List.mem_cons_self]
    rw [foldlM_cons_of_eq_some hc, ih (fun x hx => h x (List.mem_cons_of_mem c hx))]
    simp

/-- A word is read up to its end, and then has yet to be ended. -/
theorem scan_word (h : ∀ c ∈ cs, isWordChar c = true) (ht : ofWord? cs = some t)
    (done : List Token) :
    ∃ s, cs.foldlM step ⟨done, .between⟩ = some s ∧ Reaches s (t :: done) := by
  cases cs with
  | nil => cases ht
  | cons c cs =>
    have hfirst : step ⟨done, .between⟩ c = some ⟨done, .word [c]⟩ :=
      start_of_isWordChar (h c List.mem_cons_self) done
    refine ⟨⟨done, .word (cs.reverse ++ [c])⟩, ?_, .word (by simpa using ht)⟩
    rw [foldlM_cons_of_eq_some hfirst,
      foldlM_step_word (fun x hx => h x (List.mem_cons_of_mem c hx))]

/-- Four digits after the escape give the number that they stand for. -/
theorem scan_code {n : Nat} (hn : n < 0x10000) (done : List Token) (us : List Nat) :
    ((Numeral.fixed 16 4 n).map Numeral.lowerChar).foldlM step ⟨done, .code us 0 0⟩ =
      some ⟨done, .text (n :: us)⟩ := by
  have hdigit : ∀ d, Numeral.digit? 16 (Numeral.lowerChar (d % 16)) = some (d % 16) := fun d =>
    Numeral.digit?_lowerChar (d % 16) (Nat.mod_lt d (by decide))
  have hvalue : ((n / 16 / 16 / 16 % 16 * 16 + n / 16 / 16 % 16) * 16 + n / 16 % 16) * 16 + n % 16 =
      n := by omega
  simp only [Numeral.fixed, List.nil_append, List.cons_append, List.map_cons, List.map_nil,
    List.foldlM_cons, List.foldlM_nil, step, hdigit]
  simp [hvalue]

theorem scan_escape (c : Char) (done : List Token) (us : List Nat) :
    (Text.jsonEscape c).foldlM step ⟨done, .text us⟩ = some ⟨done, .text (c.toNat :: us)⟩ := by
  unfold Text.jsonEscape
  -- The seven escapes by a letter come first.
  iterate 7
    split
    · subst c
      rfl
  split
  · rename_i hcontrol
    exact scan_code (by omega) done us
  · rename_i hquote hslash _ _ _ _ _ hcontrol
    simp [step, hquote, hslash, hcontrol]

theorem scan_escapes (cs : List Char) (done : List Token) (us : List Nat) :
    (cs.flatMap Text.jsonEscape).foldlM step ⟨done, .text us⟩ =
      some ⟨done, .text ((cs.map Char.toNat).reverse ++ us)⟩ := by
  induction cs generalizing us with
  | nil => rfl
  | cons c cs ih =>
    rw [List.flatMap_cons, foldlM_append_of_eq_some (scan_escape c done us), ih]
    simp

theorem ofUnits?_cons (hhigh : isHigh u = false) (hlow : isLow u = false) :
    ofUnits? (u :: us) = (ofUnits? us).map (Char.ofNat u :: ·) := by
  cases us with
  | nil => simp [ofUnits?, hhigh, hlow]
  | cons w us => simp [ofUnits?, hhigh, hlow]

/-- A character is no half of a pair. -/
theorem ofUnits?_toNat (cs : List Char) : ofUnits? (cs.map Char.toNat) = some cs := by
  induction cs with
  | nil => rfl
  | cons c cs ih =>
    have hvalid : c.toNat < 0xD800 ∨ 0xDFFF < c.toNat ∧ c.toNat < 0x110000 := c.valid
    have hhigh : isHigh c.toNat = false := by
      simp only [isHigh, Bool.and_eq_false_iff, decide_eq_false_iff_not]
      omega
    have hlow : isLow c.toNat = false := by
      simp only [isLow, Bool.and_eq_false_iff, decide_eq_false_iff_not]
      omega
    rw [List.map_cons, ofUnits?_cons hhigh hlow, ih, Option.map_some, Char.ofNat_toNat]

theorem scan_quote (text : String) (done : List Token) :
    (Text.jsonQuote text.toList).foldlM step ⟨done, .between⟩ =
      some ⟨.string (some text) :: done, .between⟩ := by
  have hopen : step ⟨done, .between⟩ '"' = some ⟨done, .text []⟩ := rfl
  have hclose : ∀ us, step ⟨done, .text us⟩ '"' = some ⟨ofText us :: done, .between⟩ := fun _ => rfl
  have hread : ofText (text.toList.map Char.toNat).reverse = .string (some text) := by
    rw [ofText, List.reverse_reverse, ofUnits?_toNat, Option.map_some, String.ofList_toList]
  rw [Text.jsonQuote, List.cons_append, foldlM_cons_of_eq_some hopen,
    foldlM_append_of_eq_some (scan_escapes text.toList done []), List.append_nil,
    foldlM_cons_of_eq_some (hclose _), hread]
  rfl

theorem scan_name (k : String) (done : List Token) (cs : List Char) :
    (Text.jsonQuote k.toList ++ ':' :: cs).foldlM step ⟨done, .between⟩ =
      cs.foldlM step ⟨.colon :: .string (some k) :: done, .between⟩ := by
  rw [foldlM_append_of_eq_some (scan_quote k done)]
  exact foldlM_cons_of_eq_some rfl

mutual

/-- A value is scanned from between two tokens, and its last word may still have to be ended. -/
theorem scan_text : (j : Json) → j.Legible → ∀ done, ∃ s,
    j.text.foldlM step ⟨done, .between⟩ = some s ∧ Reaches s (j.tokens.reverse ++ done)
  | .null, _, done => by
    have hword : ∀ c ∈ text .null, isWordChar c = true := List.all_eq_true.mp rfl
    exact scan_word hword rfl done
  | .bool b, _, done => by
    have hword : ∀ c ∈ text (.bool b), isWordChar c = true := by
      cases b <;> exact List.all_eq_true.mp rfl
    have hread : ofWord? (text (.bool b)) = some (.bool b) := by cases b <;> rfl
    exact scan_word hword hread done
  | .number n, h, done => scan_word h.isWordChar h.ofWord?_eq done
  | .string text, _, done => ⟨_, scan_quote text done, .between _⟩
  | .array [], _, done => ⟨_, rfl, .between _⟩
  | .array (j :: rest), h, done => by
    have hopen : step ⟨done, .between⟩ '[' = some ⟨.openArray :: done, .between⟩ := rfl
    obtain ⟨s, hs, hreaches⟩ := scan_text j h.1 (.openArray :: done)
    refine ⟨_, ?_, .between _⟩
    rw [text, List.cons_append, foldlM_cons_of_eq_some hopen, foldlM_append_of_eq_some hs,
      scan_itemsText rest h.2 hreaches]
    simp [tokens]
  | .object [], _, done => ⟨_, rfl, .between _⟩
  | .object ((k, j) :: rest), h, done => by
    have hopen : step ⟨done, .between⟩ '\x7b' = some ⟨.openObject :: done, .between⟩ := rfl
    obtain ⟨s, hs, hreaches⟩ := scan_text j h.1 (.colon :: .string (some k) :: .openObject :: done)
    refine ⟨_, ?_, .between _⟩
    rw [text, List.append_assoc, List.cons_append, List.cons_append, foldlM_cons_of_eq_some hopen,
      scan_name, foldlM_append_of_eq_some hs, scan_membersText rest h.2 hreaches]
    simp [tokens]

theorem scan_itemsText : (items : List Json) → ItemsLegible items → ∀ {s done}, Reaches s done →
    (itemsText items).foldlM step s = some ⟨(itemsTokens items).reverse ++ done, .between⟩
  | [], _, s, done, hs => by
    have hclose : step s ']' = some ⟨.closeArray :: done, .between⟩ :=
      step_of_reaches hs (by decide)
    exact foldlM_cons_of_eq_some hclose
  | j :: rest, h, s, done, hs => by
    have hcomma : step s ',' = some ⟨.comma :: done, .between⟩ := step_of_reaches hs (by decide)
    obtain ⟨s', hs', hreaches⟩ := scan_text j h.1 (.comma :: done)
    rw [itemsText, List.cons_append, foldlM_cons_of_eq_some hcomma, foldlM_append_of_eq_some hs',
      scan_itemsText rest h.2 hreaches]
    simp [itemsTokens]

theorem scan_membersText : (members : List (String × Json)) → MembersLegible members →
    ∀ {s done}, Reaches s done →
    (membersText members).foldlM step s = some ⟨(membersTokens members).reverse ++ done, .between⟩
  | [], _, s, done, hs => by
    have hclose : step s '\x7d' = some ⟨.closeObject :: done, .between⟩ :=
      step_of_reaches hs (by decide)
    exact foldlM_cons_of_eq_some hclose
  | (k, j) :: rest, h, s, done, hs => by
    have hcomma : step s ',' = some ⟨.comma :: done, .between⟩ := step_of_reaches hs (by decide)
    obtain ⟨s', hs', hreaches⟩ := scan_text j h.1 (.colon :: .string (some k) :: .comma :: done)
    rw [membersText, List.append_assoc, List.cons_append, List.cons_append,
      foldlM_cons_of_eq_some hcomma, scan_name, foldlM_append_of_eq_some hs',
      scan_membersText rest h.2 hreaches]
    simp [membersTokens]

end

theorem scan?_text {j : Json} (h : j.Legible) : scan? j.text = some j.tokens := by
  obtain ⟨s, hs, hreaches⟩ := scan_text j h []
  rw [scan?, hs, Option.bind_eq_bind, Option.bind_some, finish_of_reaches hreaches]
  simp

end Token

end Json

end GraphCompare
