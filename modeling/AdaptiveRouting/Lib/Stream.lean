import Mathlib.Data.List.Basic
import Mathlib.Tactic.Common

/-!
# Decoding a stream as it arrives

A decoder is `Incremental` for an encoding when it takes every encoding off the front of whatever
follows it and asks for more on everything that falls short of one. What arrives of a list of encodings
then either begins with the first one or asks for more (`Incremental.split`).
-/

namespace Streams

universe u v w

variable {α : Type u} {β : Type v} {ε : Type w}

/-- The encodings of the values in `P` are decoded off the front, and `more` is the answer to a part
of one. -/
structure Incremental (P : α → Prop) (encode : α → List β)
    (decode : List β → Except ε (α × Nat)) (more : ε) : Prop where
  empty : decode [] = .error more
  whole : ∀ a rest, P a → decode (encode a ++ rest) = .ok (a, (encode a).length)
  part : ∀ a front, P a → front <+: encode a → front ≠ encode a → decode front = .error more

namespace Incremental

variable {P : α → Prop} {encode : α → List β} {decode : List β → Except ε (α × Nat)} {more : ε}

/-- What has arrived of a list of encodings: the first one and something behind it, or less. -/
theorem split (h : Incremental P encode decode more) {values : List α} (hvalues : ∀ a ∈ values, P a)
    {buffer rest : List β} (hbuffer : buffer ++ rest = values.flatMap encode) :
    decode buffer = .error more ∨
      ∃ a behind ahead, values = a :: ahead ∧ buffer = encode a ++ behind ∧
        behind ++ rest = ahead.flatMap encode := by
  cases values with
  | nil =>
    obtain ⟨rfl, -⟩ := List.append_eq_nil_iff.1 hbuffer
    exact .inl h.empty
  | cons a ahead =>
    rw [List.flatMap_cons] at hbuffer
    rcases List.append_eq_append_iff.1 hbuffer with ⟨missing, hencode, -⟩ | ⟨behind, hbehind, hahead⟩
    · by_cases hwhole : buffer = encode a
      · refine .inr ⟨a, [], ahead, rfl, by rw [hwhole, List.append_nil], ?_⟩
        rw [hwhole] at hbuffer
        exact List.append_cancel_left hbuffer
      · exact .inl (h.part a buffer (hvalues a List.mem_cons_self) ⟨missing, hencode.symm⟩ hwhole)
    · exact .inr ⟨a, behind, ahead, rfl, hbehind, hahead.symm⟩

end Incremental

end Streams
