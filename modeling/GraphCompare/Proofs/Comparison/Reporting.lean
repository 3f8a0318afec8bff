import GraphCompare.Proofs.Address
import GraphCompare.Proofs.Comparison.Validity

/-! What messages tell: what is wrong, with which addresses and on which side. A defect is about the
record that has it, and no other failure has its message. -/
namespace GraphCompare

/-- The parts stand in the text in this order, none before the end of the last one. -/
def Mentions : List String → String → Prop
  | [], _ => True
  | part :: parts, text => ∃ before after, text = before ++ part ++ after ∧ Mentions parts after

section mentions
variable {part text literal : String} {parts : List String}

theorem mentions_self : Mentions [text] text :=
  ⟨"", "", by rw [String.empty_append, String.append_empty], trivial⟩

theorem Mentions.next (h : Mentions parts text) : Mentions (part :: parts) (part ++ text) :=
  ⟨"", text, by rw [String.empty_append], h⟩

theorem Mentions.skip (before : String) (h : Mentions parts text) :
    Mentions parts (before ++ text) := by
  cases parts with
  | nil => trivial
  | cons part parts =>
    obtain ⟨start, after, rfl, h⟩ := h
    exact ⟨before ++ start, after, by simp only [String.append_assoc], h⟩

/-- A part within a longer literal. -/
theorem Mentions.within (before after : String) (hl : literal = before ++ part ++ after)
    (h : Mentions parts (after ++ text)) : Mentions (part :: parts) (literal ++ text) :=
  ⟨before, after ++ text, by rw [hl, String.append_assoc], h⟩

/-- Texts that differ before their literals end. -/
theorem append_ne_append {p q x y : String} (n : Nat) (hp : n ≤ p.toList.length)
    (hq : n ≤ q.toList.length) (h : p.toList.take n ≠ q.toList.take n) : p ++ x ≠ q ++ y := by
  intro heq
  have htake := congrArg (fun s => s.toList.take n) heq
  simp only [String.toList_append, List.take_append_of_le_length hp,
    List.take_append_of_le_length hq] at htake
  exact h htake

end mentions

section names
variable {s t : Side} {a b : Address}

theorem toString_string (s : String) : toString s = s := rfl

theorem Side.toString_eq (s : Side) : toString s = s.name := rfl

theorem Side.name_inj : s.name = t.name ↔ s = t := by cases s <;> cases t <;> decide

theorem Side.no_space (s : Side) : ' ' ∉ s.name.toList := by cases s <;> decide

theorem Address.toString_eq (a : Address) : toString a = a.text := rfl

theorem Address.text_inj : a.text = b.text ↔ a = b := ⟨Address.text_injective, congrArg text⟩

theorem Address.no_space (a : Address) : ' ' ∉ a.text.toList :=
  fun h => absurd (Address.mem_text h) (by decide)

end names

theorem mentions_unknownAddressText (s : Side) (a : Address) :
    Mentions ["No node", a.text, s.name] (unknownAddressText s a) := by
  unfold unknownAddressText
  simp only [toString_string, Side.toString_eq, Address.toString_eq, String.append_assoc]
  exact .within "" " at address " (by decide) (.skip _ (.next (.skip _ (.next trivial))))

namespace Defect
variable {d d' : Defect}

/-- What is wrong, and with which addresses of which side. -/
def parts : Defect → List String
  | .repeatedNode s a => ["duplicate", s.name, "node", a.text]
  | .unknownEnd s x y a => [s.name, "edge", x.text, y.text, "unknown node", a.text]
  | .repeatedEdge s x y => ["duplicate", s.name, "edge", x.text, y.text]
  | .unmatchedPair p => [p.primary.text, p.secondary.text, "cannot have kind `unmatched`"]
  | .unknownPartner p s => [p.primary.text, p.secondary.text, "No node", (p.get s).text, s.name]
  | .matchedTwice s a => [s.name, "node", a.text, "matched more than once"]

theorem message_mentions (d : Defect) : Mentions d.parts d.message := by
  unfold message parts
  cases d <;>
    simp only [toString_string, Side.toString_eq, Address.toString_eq, String.append_assoc]
  case repeatedNode s a =>
    refine .within "" " " (by decide) (.skip _ (.next ?_))
    exact .within " " " address " (by decide) (.skip _ mentions_self)
  case unknownEnd s x y a =>
    refine .next (.within " " " " (by decide) (.skip _ (.next (.skip _ (.next ?_)))))
    exact .within " references " " " (by decide) (.skip _ mentions_self)
  case repeatedEdge s x y =>
    refine .within "" " " (by decide) (.skip _ (.next ?_))
    exact .within " " " " (by decide) (.skip _ (.next (.skip _ mentions_self)))
  case unmatchedPair p => exact .skip _ (.next (.skip _ (.next (.skip " " mentions_self))))
  case unknownPartner p s =>
    refine .skip _ (.next (.skip _ (.next (.skip _ ?_))))
    exact mentions_unknownAddressText s (p.get s)
  case matchedTwice s a =>
    refine .next (.within " " " " (by decide) (.skip _ (.next ?_)))
    exact .skip " is " mentions_self

/-- The words of the message. -/
def words : Defect → List String
  | .repeatedNode s a => ["duplicate", s.name, "node", "address", a.text]
  | .unknownEnd s x y a =>
    [s.name, "edge", x.text, "->", y.text, "references", "unknown", "node", a.text]
  | .repeatedEdge s x y => ["duplicate", s.name, "edge", x.text, "->", y.text]
  | .unmatchedPair p =>
    ["match", p.primary.text, "<->", p.secondary.text, "cannot", "have", "kind", "`unmatched`"]
  | .unknownPartner p s =>
    ["match", p.primary.text, "<->", p.secondary.text ++ ":", "No", "node", "at", "address",
      (p.get s).text, "on", "the", s.name, "side"]
  | .matchedTwice s a => [s.name, "node", a.text, "is", "matched", "more", "than", "once"]

theorem toList_message (d : Defect) :
    d.message.toList = [' '].intercalate (d.words.map String.toList) := by
  unfold message words unknownAddressText
  cases d <;>
    simp only [toString_string, Side.toString_eq, Address.toString_eq, String.toList_append,
      List.append_assoc, List.map_cons, List.map_nil, List.intercalate_cons_cons,
      List.intercalate_singleton] <;>
    rfl

theorem no_space_of_mem_words {w : String} (h : w ∈ d.words) : ' ' ∉ w.toList := by
  revert w
  rw [← List.forall_iff_forall_mem]
  cases d <;> simp [words, Side.no_space, Address.no_space]

theorem words_injective (h : d.words = d'.words) : d = d' := by
  cases d <;> cases d' <;> simp [words, Side.name_inj, Address.text_inj] at h
  case repeatedNode.repeatedNode =>
    obtain ⟨rfl, rfl⟩ := h
    rfl
  case unknownEnd.unknownEnd =>
    obtain ⟨rfl, rfl, rfl, rfl⟩ := h
    rfl
  case repeatedEdge.repeatedEdge =>
    obtain ⟨rfl, rfl, rfl⟩ := h
    rfl
  case unmatchedPair.unmatchedPair p p' =>
    cases p
    cases p'
    obtain ⟨rfl, rfl⟩ := h
    rfl
  case unknownPartner.unknownPartner p s p' s' =>
    cases p
    cases p'
    obtain ⟨rfl, rfl, -, rfl⟩ := h
    rfl
  case matchedTwice.matchedTwice =>
    obtain ⟨rfl, rfl⟩ := h
    rfl

/-- Split at its spaces, a message gives its words back. -/
theorem message_injective (h : d.message = d'.message) : d = d' := by
  have hsplit : ∀ d : Defect, d.message.toList.splitOn ' ' = d.words.map String.toList := by
    intro d
    rw [toList_message]
    apply List.splitOn_intercalate
    · intro w hw
      obtain ⟨v, hv, rfl⟩ := List.mem_map.mp hw
      exact no_space_of_mem_words hv
    · cases d <;> simp [words]
  apply words_injective
  apply List.map_injective_iff.mpr fun _ _ => String.toList_injective
  rw [← hsplit, ← hsplit, h]

/-- The defect is one of this record: what it names is on the record. -/
def IsAbout : Defect → Record → Prop
  | .repeatedNode s a, .node t n => t = s ∧ n.address = a
  | .unknownEnd s x y a, .edge t e => t = s ∧ e.source = x ∧ e.target = y ∧ (a = x ∨ a = y)
  | .repeatedEdge s x y, .edge t e => t = s ∧ e.source = x ∧ e.target = y
  | .unmatchedPair p, .pairing r => r.ends = p
  | .unknownPartner p _, .pairing r => r.ends = p
  | .matchedTwice s a, .pairing r => r.ends.get s = a
  | _, _ => False

theorem isAbout_of_fault? {c : Comparison} {earlier : List Record} {r : Record}
    (h : c.fault? earlier r = some d) : d.IsAbout r := by
  cases r with
  | node s n =>
    simp only [Comparison.fault?, Option.ite_none_right_eq_some, Option.some.injEq] at h
    obtain ⟨-, rfl⟩ := h
    exact ⟨rfl, rfl⟩
  | edge s e =>
    simp only [Comparison.fault?] at h
    split_ifs at h <;> cases h <;> simp [IsAbout]
  | pairing r =>
    simp only [Comparison.fault?] at h
    split_ifs at h <;> cases h <;> simp [IsAbout, PerSide.get]

end Defect

namespace Failure

/-- What is wrong, and with what. -/
def parts : Failure → List String
  | .unknownAddress s a => ["No node", a.text, s.name]
  | .unknownEdge s x y => ["No edge", x.text, y.text, s.name]
  | .unknownElement v kind i => ["Unknown", kind.name, toString i, v.name]
  | .invalidComparison d => "Invalid diff dataset" :: d.parts
  | .zoomOutFactor x => ["zoomOutFactor", String.ofList (Decimal.messageLayout.text x)]
  | .layout reason => ["Graph layout failed", reason]
  | .malformedJson => ["Malformed JSON"]

theorem message_mentions (f : Failure) : Mentions f.parts f.message := by
  unfold message parts
  cases f <;>
    simp only [toString_string, Side.toString_eq, Address.toString_eq, String.append_assoc]
  case unknownAddress s a => exact mentions_unknownAddressText s a
  case unknownEdge s x y =>
    refine .within "" " " (by decide) (.skip _ (.next (.skip _ (.next (.skip _ ?_)))))
    exact .next trivial
  case unknownElement v kind i =>
    refine .within "" " " (by decide) (.skip _ (.next (.skip _ (.next (.skip _ ?_)))))
    exact .next trivial
  case invalidComparison d =>
    exact .within "" ": " (by decide) (.skip _ d.message_mentions)
  case zoomOutFactor x =>
    refine .within "Invalid graph settings: " " must lie strictly between 0 and 1, got " ?_ ?_
    · decide
    · exact .skip _ mentions_self
  case layout reason => exact .within "" ": " (by decide) (.skip _ mentions_self)
  case malformedJson => exact mentions_self

/-- No other failure has the message of a defect. -/
theorem eq_of_message_eq {f : Failure} {d : Defect}
    (h : f.message = (invalidComparison d).message) : f = .invalidComparison d := by
  cases f with
  | invalidComparison d' =>
    have hmessage : d'.message = d.message :=
      (String.append_right_inj "Invalid diff dataset: ").mp h
    rw [Defect.message_injective hmessage]
  | zoomOutFactor x =>
    -- this text too begins with the word "Invalid"
    unfold message at h
    exact absurd h (append_ne_append 9 (by decide) (by decide) (by decide))
  | malformedJson =>
    have hempty : "Malformed JSON" ++ "" = "Invalid diff dataset: " ++ d.message :=
      String.append_empty.trans h
    exact absurd hempty (append_ne_append 1 (by decide) (by decide) (by decide))
  | _ =>
    unfold message unknownAddressText at h
    simp only [String.append_assoc] at h
    exact absurd h (append_ne_append 1 (by decide) (by decide) (by decide))

end Failure

/-- The text is about the record and tells what is wrong with it. No other failure has this text. -/
structure Reports (text : String) (r : Record) (d : Defect) : Prop where
  isAbout : d.IsAbout r
  mentions : Mentions ("Invalid diff dataset" :: d.parts) text
  unique : ∀ f : Failure, f.message = text → f = .invalidComparison d

theorem reports_of_fault? {c : Comparison} {earlier : List Record} {r : Record} {d : Defect}
    (h : c.fault? earlier r = some d) : Reports (Failure.invalidComparison d).message r d where
  isAbout := Defect.isAbout_of_fault? h
  mentions := (Failure.invalidComparison d).message_mentions
  unique _ := Failure.eq_of_message_eq

example : (Failure.invalidComparison (.unknownEnd .primary ⟨1⟩ ⟨2⟩ ⟨1⟩)).message =
    "Invalid diff dataset: primary edge 00000001 -> 00000002 references unknown node 00000001" := by
  decide +kernel

end GraphCompare
