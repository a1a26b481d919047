import AdaptiveRouting.Proof.Frames

/-!
# Frames that stay unfinished

A session waits for the rest of a frame until `max_receive_stall_millis` after the turn that found it
started, however its bytes trickle in, and not longer; a session that is not in the middle of a frame is
never dropped for being idle (`stall_laws`).
-/

namespace AdaptiveRouting

namespace Wire

namespace Connection

variable {σ : Type}

/-- When a frame must be complete that a turn finds started. -/
def due (limits : Limits) (turn : Turn) : Ticks := saturatingAdd turn.now (stallBudget limits)

/-- What a turn does to a session that goes on. -/
inductive Goes (limits : Limits) (dispatch : σ → Frame → σ × Disposition) (c : Connection σ)
    (turn : Turn) : Connection σ → Prop
  | dispatched {c' : Connection σ} (frame : Frame) (deadline : c'.deadline = none)
      (dispatched : c'.dispatched = c.dispatched ++ [frame]) : Goes limits dispatch c turn c'
  | idle (empty : c.buffer = []) :
      Goes limits dispatch c turn (receive { c with deadline := none } turn.received)
  | begins (partly : c.buffer ≠ []) (deadline : c.deadline = none) :
      Goes limits dispatch c turn (receive { c with deadline := some (due limits turn) } turn.received)
  | waits {deadline : Ticks} (partly : c.buffer ≠ []) (waiting : c.deadline = some deadline)
      (timely : turn.now < deadline) : Goes limits dispatch c turn (receive c turn.received)

/-- How long a session is patient with its peer. -/
structure StallLaws (limits : Limits) (dispatch : σ → Frame → σ × Disposition) : Prop where
  /-- While a frame stays unfinished, the session goes on only before its deadline. -/
  bounded : ∀ (c : Connection σ) (first : Turn) (rest : List Turn), c.buffer ≠ [] → c.deadline = none →
    (run limits dispatch c (first :: rest)).ended = none →
    (run limits dispatch c (first :: rest)).dispatched = c.dispatched →
    ∀ turn ∈ rest, turn.now < due limits first
  /-- A session that is dropped for an unfinished frame was given the whole budget for it. -/
  granted : ∀ (c : Connection σ) (turns : List Turn) (turn : Turn), c.deadline = none →
    (run limits dispatch c turns).ended = none → (run limits dispatch c turns).closing = false →
    decodeFrame (run limits dispatch c turns).buffer limits.maxFrameBytes = .error .incomplete →
    turn.running = true → (∀ error, turn.received ≠ .failed error) →
    (iterate limits dispatch (run limits dispatch c turns) turn).ended.isSome = true →
    ∃ front first back, turns = front ++ first :: back ∧ (run limits dispatch c front).buffer ≠ [] ∧
      (run limits dispatch c front).dispatched = (run limits dispatch c turns).dispatched ∧
      due limits first ≤ turn.now
  /-- Between two frames it waits for ever. -/
  idle : ∀ (c : Connection σ) (turns : List Turn), c.ended = none → c.closing = false → c.buffer = [] →
    (∀ turn ∈ turns, turn.running = true ∧ turn.received = .stalled) →
    (run limits dispatch c turns).ended = none

section
variable {limits : Limits} {dispatch : σ → Frame → σ × Disposition} {c : Connection σ} {turn : Turn}
  {turns : List Turn}

theorem run_cons (c : Connection σ) (turn : Turn) (turns : List Turn) :
    run limits dispatch c (turn :: turns) =
      run limits dispatch (iterate limits dispatch c turn) turns := rfl

theorem run_snoc (c : Connection σ) (turns : List Turn) (turn : Turn) :
    run limits dispatch c (turns ++ [turn]) =
      iterate limits dispatch (run limits dispatch c turns) turn := by
  unfold run
  rw [List.foldl_append]
  rfl

theorem receive_deadline (c : Connection σ) (received : Received) :
    (receive c received).deadline = c.deadline ∧ (receive c received).dispatched = c.dispatched := by
  cases received <;> exact ⟨rfl, rfl⟩

theorem receive_partly (h : c.buffer ≠ []) (received : Received) : (receive c received).buffer ≠ [] := by
  cases received with
  | data bytes => exact List.append_ne_nil_of_left_ne_nil h bytes
  | stalled | closed | failed => exact h

/-- A turn that does not end the session. -/
theorem iterate_goes (h : (iterate limits dispatch c turn).ended = none) :
    c.ended = none ∧ Goes limits dispatch c turn (iterate limits dispatch c turn) := by
  unfold iterate at h ⊢
  split at h
  · rename_i hended
    rw [h] at hended
    cases hended
  · rename_i hlive
    have hlive : c.ended = none := by simpa using hlive
    refine ⟨hlive, ?_⟩
    rw [if_neg (by simp [hlive])]
    split at h
    · cases h
    · rename_i hrunning
      rw [if_neg hrunning]
      split at h
      · exact .dispatched _ rfl rfl
      · unfold await at h ⊢
        split at h
        · cases h
        · rename_i hopen
          rw [if_neg hopen]
          split at h
          · rename_i hempty
            rw [if_pos hempty]
            exact .idle (List.isEmpty_iff.1 hempty)
          · rename_i hpartly
            rw [if_neg hpartly]
            have hpartly : c.buffer ≠ [] := fun hnil => hpartly (List.isEmpty_iff.2 hnil)
            cases hdeadline : c.deadline with
            | none => exact .begins hpartly hdeadline
            | some deadline =>
              rw [hdeadline] at h
              dsimp only at h ⊢
              split at h
              · cases h
              · rename_i htimely
                rw [if_neg htimely]
                exact .waits hpartly hdeadline (by simpa using htimely)
      · cases h

theorem iterate_dispatched (c : Connection σ) (turn : Turn) :
    c.dispatched <+: (iterate limits dispatch c turn).dispatched := by
  unfold iterate
  split
  · exact List.prefix_refl _
  · split
    · exact List.prefix_refl _
    · split
      · exact List.prefix_append _ _
      · unfold await
        have hreceive (c' : Connection σ) (hsame : c'.dispatched = c.dispatched) :
            c.dispatched <+: (receive c' turn.received).dispatched :=
          ⟨[], by rw [List.append_nil, (receive_deadline c' turn.received).2, hsame]⟩
        split
        · exact List.prefix_refl _
        · split
          · exact hreceive _ rfl
          · split
            · exact hreceive _ rfl
            · split
              · exact List.prefix_refl _
              · exact hreceive _ rfl
      · exact List.prefix_refl _

theorem run_dispatched (turns : List Turn) (c : Connection σ) :
    c.dispatched <+: (run limits dispatch c turns).dispatched := by
  induction turns generalizing c with
  | nil => exact List.prefix_refl _
  | cons turn rest ih => exact (iterate_dispatched c turn).trans (ih _)

theorem run_ended (h : (run limits dispatch c turns).ended = none) : c.ended = none := by
  induction turns generalizing c with
  | nil => exact h
  | cons turn rest ih => exact (iterate_goes (ih h)).1

/-- While nothing is dispatched, the deadline of a frame stands. -/
theorem run_timely {deadline : Ticks} (hpartly : c.buffer ≠ []) (hdeadline : c.deadline = some deadline)
    (hlive : (run limits dispatch c turns).ended = none)
    (hsame : (run limits dispatch c turns).dispatched = c.dispatched) :
    ∀ turn ∈ turns, turn.now < deadline := by
  induction turns generalizing c with
  | nil => exact fun _ h => by cases h
  | cons turn rest ih =>
    rw [run_cons] at hlive hsame
    have hfront : c.dispatched <+: (iterate limits dispatch c turn).dispatched :=
      iterate_dispatched c turn
    have hback : _ <+: (run limits dispatch (iterate limits dispatch c turn) rest).dispatched :=
      run_dispatched rest (iterate limits dispatch c turn)
    have hkept : (iterate limits dispatch c turn).dispatched = c.dispatched := by
      refine (hfront.eq_of_length_le ?_).symm
      rw [← hsame]
      exact hback.length_le
    have hgoes := (iterate_goes (run_ended hlive)).2
    generalize hnext : iterate limits dispatch c turn = next at *
    cases hgoes with
    | dispatched frame _ hdispatched =>
      rw [hdispatched] at hkept
      simp at hkept
    | idle hempty => exact absurd hempty hpartly
    | begins _ hnone =>
      rw [hdeadline] at hnone
      cases hnone
    | waits _ hwaiting htimely =>
      rw [hdeadline] at hwaiting
      cases hwaiting
      have hrest := ih (receive_partly hpartly turn.received)
        ((receive_deadline c turn.received).1.trans hdeadline) hlive (hsame.trans hkept.symm)
      intro later hlater
      rcases List.mem_cons.1 hlater with rfl | hlater
      · exact htimely
      · exact hrest later hlater

/-- A deadline was set by a turn of the run that found a frame started, which is unfinished since. -/
theorem run_deadline (hnone : c.deadline = none) {deadline : Ticks}
    (hlive : (run limits dispatch c turns).ended = none)
    (hdeadline : (run limits dispatch c turns).deadline = some deadline) :
    ∃ front first back, turns = front ++ first :: back ∧ deadline = due limits first ∧
      (run limits dispatch c front).buffer ≠ [] ∧
      (run limits dispatch c front).dispatched = (run limits dispatch c turns).dispatched := by
  induction turns using List.reverseRecOn with
  | nil =>
    rw [show run limits dispatch c [] = c from rfl, hnone] at hdeadline
    cases hdeadline
  | append_singleton front turn ih =>
    rw [run_snoc] at hlive hdeadline ⊢
    obtain ⟨hbefore, hgoes⟩ := iterate_goes hlive
    generalize hnext : iterate limits dispatch (run limits dispatch c front) turn = next at *
    cases hgoes with
    | dispatched _ hcleared =>
      rw [hcleared] at hdeadline
      cases hdeadline
    | idle =>
      rw [(receive_deadline _ _).1] at hdeadline
      cases hdeadline
    | begins hpartly =>
      rw [(receive_deadline _ _).1] at hdeadline
      cases hdeadline
      refine ⟨front, turn, [], rfl, rfl, hpartly, ?_⟩
      rw [(receive_deadline _ _).2]
    | waits hpartly hwaiting =>
      rw [(receive_deadline _ _).1] at hdeadline
      obtain ⟨start, first, back, rfl, hdue, hstarted, hsame⟩ := ih hbefore hdeadline
      refine ⟨start, first, back ++ [turn], by simp, hdue, hstarted, ?_⟩
      rw [(receive_deadline _ _).2]
      exact hsame

end

/-- However the bytes of a peer come in. -/
theorem stall_laws (limits : Limits) (dispatch : σ → Frame → σ × Disposition) :
    StallLaws limits dispatch where
  bounded := fun c first rest hpartly hnone hlive hsame => by
    rw [run_cons] at hlive hsame
    have hfront : c.dispatched <+: (iterate limits dispatch c first).dispatched :=
      iterate_dispatched c first
    have hback : _ <+: (run limits dispatch (iterate limits dispatch c first) rest).dispatched :=
      run_dispatched rest (iterate limits dispatch c first)
    have hkept : (iterate limits dispatch c first).dispatched = c.dispatched := by
      refine (hfront.eq_of_length_le ?_).symm
      rw [← hsame]
      exact hback.length_le
    have hgoes := (iterate_goes (run_ended hlive)).2
    generalize hnext : iterate limits dispatch c first = next at *
    cases hgoes with
    | dispatched frame _ hdispatched =>
      rw [hdispatched] at hkept
      simp at hkept
    | idle hempty => exact absurd hempty hpartly
    | begins =>
      have hstarted : Connection.buffer { c with deadline := some (due limits first) } ≠ [] := hpartly
      exact run_timely (receive_partly hstarted _) (receive_deadline _ _).1 hlive
        (hsame.trans hkept.symm)
    | waits _ hwaiting =>
      rw [hnone] at hwaiting
      cases hwaiting
  granted := fun c turns turn hnone hlive hopen hmore hrunning hsound hends => by
    generalize hlast : run limits dispatch c turns = last at *
    have hended : (await limits last turn).ended.isSome = true := by
      unfold iterate at hends
      rw [if_neg (by simp [hlive]), if_neg (by simp [hrunning]), hmore] at hends
      exact hends
    have hreceived (c' : Connection σ) (hc' : c'.ended = none) :
        (receive c' turn.received).ended = none := by
      cases hreceived : turn.received with
      | failed error => exact absurd hreceived (hsound error)
      | data | stalled | closed => exact hc'
    unfold await at hended
    rw [if_neg (by simp [hopen])] at hended
    split at hended
    · rw [hreceived { last with deadline := none } hlive] at hended
      cases hended
    · split at hended
      · have hkept := hreceived { last with deadline := some (due limits turn) } hlive
        unfold due at hkept
        rw [hkept] at hended
        cases hended
      · rename_i deadline hdeadline
        split at hended
        · rename_i hlate
          subst hlast
          obtain ⟨front, first, back, hturns, rfl, hpartly, hsame⟩ := run_deadline hnone hlive hdeadline
          exact ⟨front, first, back, hturns, hpartly, hsame, hlate⟩
        · rw [hreceived _ hlive] at hended
          cases hended
  idle := fun c turns hlive hopen hempty hquiet => by
    induction turns generalizing c with
    | nil => exact hlive
    | cons turn rest ih =>
      obtain ⟨hrunning, hstalled⟩ := hquiet turn List.mem_cons_self
      have hnext : iterate limits dispatch c turn = { c with deadline := none } := by
        unfold iterate
        have hmore : decodeFrame c.buffer limits.maxFrameBytes = .error .incomplete := by
          rw [hempty]
          rfl
        rw [if_neg (by simp [hlive]), if_neg (by simp [hrunning]), hmore]
        show await limits c turn = _
        unfold await
        rw [if_neg (by simp [hopen]), if_pos (by simp [hempty]), hstalled]
        rfl
      rw [run_cons, hnext]
      exact ih _ hlive hopen hempty fun later hlater => hquiet later (List.mem_cons_of_mem _ hlater)

end Connection

end Wire

end AdaptiveRouting
