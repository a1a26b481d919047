import Mathlib.Data.List.Basic
import Mathlib.Tactic.Common

/-!
# Stop and wait

A client with at most one request outstanding and a server that takes requests in order, answering each
once or not at all, over links that keep the order of what they carry. The client may pass over a
response, and gives up for good when it stops waiting without one. What it returns for a request is then
the response to that request (`Inv.matched`), and while it is neither waiting nor gone nothing is under
way (`Phase`).
-/

namespace StopAndWait

variable {Q R : Type*}

structure State (Q R : Type*) where
  requested : List Q := []
  served : List (Q × Option R) := []
  /-- How many responses the client has read. -/
  read : Nat := 0
  waiting : Option Q := none
  connected : Bool := true
  returned : List (Q × R) := []

/-- The responses that were sent. -/
def responses (served : List (Q × Option R)) : List R := served.filterMap Prod.snd

/-- A request with its response, as it was served. -/
def answered (pair : Q × R) : Q × Option R := (pair.1, some pair.2)

inductive Step (s : State Q R) : State Q R → Prop
  | stay : Step s s
  | ask (q : Q) (connected : s.connected = true) (idle : s.waiting = none) :
      Step s { s with requested := s.requested ++ [q], waiting := some q }
  | farewell (q : Q) (connected : s.connected = true) (idle : s.waiting = none) :
      Step s { s with requested := s.requested ++ [q], connected := false }
  | giveUp : Step s { s with waiting := none, connected := false }
  | serve (q : Q) (r : Option R) (behind : List Q)
      (next : s.requested = s.served.map Prod.fst ++ q :: behind) :
      Step s { s with served := s.served ++ [(q, r)] }
  | skip (q : Q) (r : R) (waiting : s.waiting = some q)
      (next : (responses s.served)[s.read]? = some r) : Step s { s with read := s.read + 1 }
  | give (q : Q) (r : R) (waiting : s.waiting = some q)
      (next : (responses s.served)[s.read]? = some r) :
      Step s { s with
        read := s.read + 1, waiting := none, returned := s.returned ++ [(q, r)] }

/-- Where a request stands. -/
inductive Phase (s : State Q R) : Prop
  | gone (connected : s.connected = false) (waiting : s.waiting = none)
  | idle (waiting : s.waiting = none) (all : s.requested = s.served.map Prod.fst)
      (read : s.read = (responses s.served).length)
  | asked (q : Q) (waiting : s.waiting = some q) (connected : s.connected = true)
      (last : s.requested = s.served.map Prod.fst ++ [q])
      (read : s.read = (responses s.served).length)
  | served (q : Q) (r : Option R) (front : List (Q × Option R)) (waiting : s.waiting = some q)
      (connected : s.connected = true) (last : s.served = front ++ [(q, r)])
      (all : s.requested = s.served.map Prod.fst) (read : (responses front).length ≤ s.read)
      (matched : (s.returned.map answered).Sublist front)

structure Inv (s : State Q R) : Prop where
  inOrder : s.served.map Prod.fst <+: s.requested
  within : s.read ≤ (responses s.served).length
  matched : (s.returned.map answered).Sublist s.served
  phase : Phase s

theorem responses_append (front : List (Q × Option R)) (q : Q) (r : Option R) :
    responses (front ++ [(q, r)]) = responses front ++ r.toList := by
  cases r <;> simp [responses]

theorem Inv.start : Inv (Q := Q) (R := R) {} :=
  ⟨List.prefix_refl _, Nat.le_refl _, List.nil_sublist _, .idle rfl rfl rfl⟩

variable {s s' : State Q R}

/-- A response that is left to read is the one to the request the client waits for. -/
theorem Inv.next (h : Inv s) {q : Q} {r : R} (hwaiting : s.waiting = some q)
    (hnext : (responses s.served)[s.read]? = some r) : ∃ front, s.served = front ++ [(q, some r)] ∧
      s.requested = s.served.map Prod.fst ∧ s.read = (responses front).length ∧
      (s.returned.map answered).Sublist front := by
  have hlt : s.read < (responses s.served).length := (List.getElem?_eq_some_iff.1 hnext).1
  cases h.phase with
  | gone _ hnone => simp [hwaiting] at hnone
  | idle hnone => simp [hwaiting] at hnone
  | asked _ _ _ _ hread => omega
  | served q' r' front hwaiting' _ hlast hall hread hmatched =>
    rw [hwaiting] at hwaiting'
    cases hwaiting'
    rw [hlast, responses_append, List.length_append] at hlt
    rw [hlast, responses_append, List.getElem?_append_right hread] at hnext
    cases r' with
    | none => simp at hnext
    | some r' =>
      have hlength : (some r').toList.length = 1 := rfl
      have heq : s.read = (responses front).length := by omega
      rw [heq, Nat.sub_self] at hnext
      cases hnext
      exact ⟨front, hlast, hall, heq, hmatched⟩

/-- A client that waits has not given up. -/
theorem Inv.connected (h : Inv s) {q : Q} (hwaiting : s.waiting = some q) : s.connected = true := by
  cases h.phase with
  | gone _ hnone => simp [hwaiting] at hnone
  | idle hnone => simp [hwaiting] at hnone
  | asked _ _ hconnected => exact hconnected
  | served _ _ _ _ hconnected => exact hconnected

/-- A step keeps the invariant. -/
theorem Inv.step (h : Inv s) (hstep : Step s s') : Inv s' := by
  cases hstep with
  | stay => exact h
  | ask q hconnected hidle =>
    refine ⟨h.inOrder.trans (List.prefix_append _ _), h.within, h.matched, ?_⟩
    cases h.phase with
    | gone hgone => simp [hconnected] at hgone
    | idle _ hall hread => exact .asked q rfl hconnected (by simp [hall]) hread
    | asked _ hwaiting => simp [hidle] at hwaiting
    | served _ _ _ hwaiting => simp [hidle] at hwaiting
  | farewell q _ hidle =>
    exact ⟨h.inOrder.trans (List.prefix_append _ _), h.within, h.matched, .gone rfl hidle⟩
  | giveUp => exact ⟨h.inOrder, h.within, h.matched, .gone rfl rfl⟩
  | serve q r behind hnext =>
    refine ⟨⟨behind, by simp [hnext]⟩, ?_, h.matched.trans (List.sublist_append_left _ _), ?_⟩
    · have hwithin := h.within
      simp only [responses_append, List.length_append]
      omega
    · cases h.phase with
      | gone hgone hwaiting => exact .gone hgone hwaiting
      | idle _ hall =>
        rw [hnext] at hall
        simp at hall
      | asked q' hwaiting hconnected hlast hread =>
        rw [hnext] at hlast
        obtain ⟨rfl, rfl⟩ : q = q' ∧ behind = [] := by simpa using hlast
        exact .served q r s.served hwaiting hconnected rfl (by simp [hnext])
          (Nat.le_of_eq hread.symm) h.matched
      | served _ _ _ _ _ _ hall =>
        rw [hnext] at hall
        simp at hall
  | skip q r hwaiting hnext =>
    obtain ⟨front, hlast, hall, hread, hmatched⟩ := h.next hwaiting hnext
    refine ⟨h.inOrder, (List.getElem?_eq_some_iff.1 hnext).1, h.matched, ?_⟩
    exact .served q (some r) front hwaiting (h.connected hwaiting) hlast hall (by simp only; omega)
      hmatched
  | give q r hwaiting hnext =>
    obtain ⟨front, hlast, hall, hread, hmatched⟩ := h.next hwaiting hnext
    refine ⟨h.inOrder, (List.getElem?_eq_some_iff.1 hnext).1, ?_, .idle rfl hall ?_⟩
    · rw [hlast, List.map_append]
      exact hmatched.append (List.Sublist.refl _)
    · simp only [hlast, responses_append, List.length_append, hread]
      rfl

/-- A client that neither waits nor has given up has had every request answered, and has read every
response. -/
theorem Inv.settled (h : Inv s) (hconnected : s.connected = true) (hidle : s.waiting = none) :
    s.requested = s.served.map Prod.fst ∧ s.read = (responses s.served).length := by
  cases h.phase with
  | gone hgone => simp [hconnected] at hgone
  | idle _ hall hread => exact ⟨hall, hread⟩
  | asked _ hwaiting => simp [hidle] at hwaiting
  | served _ _ _ hwaiting => simp [hidle] at hwaiting

end StopAndWait
