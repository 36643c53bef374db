import Mathlib

/-! Codes that can be read off the front of a text.

In a prefix code no word is the start of another, so a text that starts with a word starts
with one word only, and the rest of the text is what it is (`PrefixFree`). A list of words
up to a stop that starts none of them is read back as well (`PrefixFree.upTo`). -/
namespace OpenTimeline.Library
variable {α β : Type}

/-- The word at the front of a text, and what follows it, are determined. -/
def PrefixFree (encode : α → List β) : Prop :=
  ∀ a b rest rest', encode a ++ rest = encode b ++ rest' → a = b ∧ rest = rest'

/-- The words of a list, and a stop behind them. -/
def encodeUpTo (encode : α → List β) (stop : β) (items : List α) : List β := items.flatMap encode ++ [stop]

theorem PrefixFree.upTo {encode : α → List β} (h : PrefixFree encode) {stop : β}
    (hstop : ∀ a rest rest', encode a ++ rest ≠ stop :: rest') : PrefixFree (encodeUpTo encode stop) := by
  intro items items' rest rest' heq
  simp only [encodeUpTo, List.append_assoc, List.singleton_append] at heq
  induction items generalizing items' with
  | nil =>
    cases items' with
    | nil => exact ⟨rfl, List.tail_eq_of_cons_eq heq⟩
    | cons b items' =>
      rw [List.flatMap_cons, List.append_assoc] at heq
      exact absurd heq.symm (hstop _ _ _)
  | cons a items ih =>
    rw [List.flatMap_cons, List.append_assoc] at heq
    cases items' with
    | nil => exact absurd heq (hstop _ _ _)
    | cons b items' =>
      rw [List.flatMap_cons, List.append_assoc] at heq
      obtain ⟨rfl, htail⟩ := h _ _ _ _ heq
      obtain ⟨rfl, hrest⟩ := ih _ htail
      exact ⟨rfl, hrest⟩

end OpenTimeline.Library
