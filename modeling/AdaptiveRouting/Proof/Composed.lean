import AdaptiveRouting.Proof.Resend

/-!
# Composed identities

Every composed identity ends in a dash and a number, so it is an identity exactly when what stands before
the dash starts like one and leaves room (`numbered_ok_iff`), and its number can be read off it
(`numbered_inj`). An engine composes without a bound, so it mints identities of every kind for every
counter exactly when prefix and nonce leave room for the longest (`minted_iff`). A coordinator cuts its
identities to the bound. It cuts the attempts of a session behind the number of the session, so it tells
them apart exactly as long as nothing is cut (`attempts_distinct_iff`).
-/

namespace AdaptiveRouting

/-! ## Encodings -/

theorem idEncodingOk_iff {bound : Nat} {text : Text} : idEncodingOk bound text = true ↔
    text.length ≤ bound ∧ (∀ c ∈ text, idCharAllowed c = true) ∧
      (∃ front, text.head? = some front ∧ idEdgeCharAllowed front = true) ∧
      ∃ back, text.getLast? = some back ∧ idEdgeCharAllowed back = true := by
  unfold idEncodingOk
  cases text with
  | nil => simp
  | cons front rest =>
    obtain ⟨back, hback⟩ : ∃ back, (front :: rest).getLast? = some back :=
      ⟨_, List.getLast?_eq_some_getLast (by simp)⟩
    rw [hback]
    simp only [List.head?_cons, Bool.and_eq_true, decide_eq_true_eq, List.all_eq_true, and_assoc,
      Option.some.injEq, exists_eq_left']

theorem StrongId.parse_isSome {d : IdDomain} {text : Text} :
    (StrongId.parse text : Option (StrongId d)).isSome = idEncodingOk d.maxLength text := by
  unfold StrongId.parse
  split
  · rename_i hok
    exact hok.symm
  · rename_i hbad
    exact (Bool.eq_false_iff.2 hbad).symm

section
variable {bound : Nat} {stem other : Text}

/-- A text that ends in a dash and a number is an identity when the rest starts like one and fits. -/
theorem numbered_ok_iff (n : UInt64) : idEncodingOk bound (stem ++ 0x2D :: natText n.toNat) = true ↔
    stem.length + 1 + (natText n.toNat).length ≤ bound ∧ (∀ c ∈ stem, idCharAllowed c = true) ∧
      ∃ front, stem.head? = some front ∧ idEdgeCharAllowed front = true := by
  obtain ⟨d, hd⟩ := natText_digits _ _ (List.getLast_mem (natText_ne_nil n.toNat))
  have hlast : (stem ++ 0x2D :: natText n.toNat).getLast? = some (UInt8.ofNat (48 + d)) := by
    rw [List.getLast?_append_of_ne_nil _ (by simp), List.getLast?_cons_of_ne_nil (natText_ne_nil _),
      List.getLast?_eq_some_getLast (natText_ne_nil _), hd]
  have hlength : (stem ++ 0x2D :: natText n.toNat).length =
      stem.length + 1 + (natText n.toNat).length := by
    rw [List.length_append, List.length_cons]
    omega
  rw [idEncodingOk_iff, hlast, hlength]
  refine and_congr_right fun _ => ⟨fun h => ⟨fun c hc => h.1 c (List.mem_append_left _ hc), ?_⟩,
    fun h => ⟨fun c hc => ?_, ?_, _, rfl, (digit_allowed d).2.1⟩⟩
  · obtain ⟨-, ⟨front, hfront, hedge⟩, -⟩ := h
    cases stem with
    | nil =>
      cases hfront
      exact absurd hedge (by decide)
    | cons => exact ⟨front, hfront, hedge⟩
  · rcases List.mem_append.1 hc with hc | hc
    · exact h.1 c hc
    · rcases List.mem_cons.1 hc with rfl | hc
      · decide
      · obtain ⟨d, rfl⟩ := natText_digits _ c hc
        exact (digit_allowed d).1
  · obtain ⟨front, hfront, hedge⟩ := h.2
    cases stem with
    | nil => cases hfront
    | cons => exact ⟨front, hfront, hedge⟩

/-- The number is what follows the last dash. -/
theorem numbered_number (stem : Text) (n : Nat) :
    (stem ++ 0x2D :: natText n).reverse.takeWhile (· != 0x2D) = (natText n).reverse := by
  have hdigits : ∀ c ∈ (natText n).reverse, (c != 0x2D) = true := fun c hc => by
    obtain ⟨d, rfl⟩ := natText_digits _ c (List.mem_reverse.1 hc)
    exact bne_iff_ne.2 (digit_allowed d).2.2
  rw [List.reverse_append, List.reverse_cons, List.append_assoc,
    List.takeWhile_append_of_pos hdigits]
  simp

theorem numbered_inj {m n : UInt64}
    (h : stem ++ 0x2D :: natText m.toNat = other ++ 0x2D :: natText n.toNat) : m = n ∧ stem = other := by
  have hnumber := numbered_number stem m.toNat
  rw [h, numbered_number] at hnumber
  obtain rfl : n = m := UInt64.toNat_inj.1 (natText_inj (List.reverse_injective hnumber))
  exact ⟨rfl, List.append_cancel_right h⟩

end

/-! ## Numbers -/

theorem natText_mono {m n : UInt64} (h : m ≤ n) :
    (natText m.toNat).length ≤ (natText n.toNat).length := by
  unfold natText
  rw [List.length_map, List.length_map]
  refine (Nat.length_toDigits_le_iff (by decide) Nat.length_toDigits_pos).2 ?_
  have hlt := (Nat.length_toDigits_le_iff (b := 10) (by decide) Nat.length_toDigits_pos).1
    (Nat.le_refl (Nat.toDigits 10 n.toNat).length)
  exact Nat.lt_of_le_of_lt (UInt64.le_iff_toNat_le.1 h) hlt

theorem natText_digit {n : Nat} (h : n < 10) : (natText n).length = 1 := by
  unfold natText
  rw [Nat.toDigits_of_lt_base h]
  rfl

/-- The last digit of a number is cut off by a division. -/
theorem natText_tens {n : Nat} (h : 10 ≤ n) : ∃ digit, natText n = natText (n / 10) ++ [digit] := by
  have happend := Nat.toDigits_append_toDigits (b := 10) (n := n / 10) (d := n % 10) (by decide)
    (by omega) (by omega)
  rw [Nat.toDigits_of_lt_base (Nat.mod_lt n (by decide)), Nat.div_add_mod] at happend
  refine ⟨(n % 10).digitChar.toNat.toUInt8, ?_⟩
  unfold natText
  rw [← happend, List.map_append]
  rfl

/-! ## Identities an engine mints -/

theorem processNonce_allowed (pid stamp counter : UInt64) :
    ∀ c ∈ processNonce pid stamp counter, idCharAllowed c = true := by
  have hnumber (n : UInt64) : ∀ c ∈ natText n.toNat, idCharAllowed c = true := fun c hc => by
    obtain ⟨d, rfl⟩ := natText_digits _ c hc
    exact (digit_allowed d).1
  have hdash : ∀ c ∈ ("-" : Text), idCharAllowed c = true := List.all_eq_true.1 (by decide)
  intro c hc
  obtain ⟨part, hpart, hc⟩ := List.mem_flatten.1 hc
  simp only [List.mem_cons, List.not_mem_nil, or_false] at hpart
  rcases hpart with rfl | rfl | rfl | rfl | rfl
  · exact hnumber pid c hc
  · exact hdash c hc
  · exact hnumber stamp c hc
  · exact hdash c hc
  · exact hnumber counter c hc

theorem IdKind.text_ok (kind : IdKind) : (∀ c ∈ kind.text, idCharAllowed c = true) ∧
    ∃ front, kind.text.head? = some front ∧ idEdgeCharAllowed front = true := by
  refine ⟨by cases kind <;> exact List.all_eq_true.1 (by decide), ?_⟩
  cases kind <;> exact ⟨_, rfl, by decide⟩

/-- What an identity of a kind has before its number. -/
def IdFactory.stem (f : IdFactory) (kind : IdKind) : Text :=
  (if f.idPrefix = [] then [] else f.idPrefix ++ [0x2D]) ++ (kind.text ++ 0x2D :: f.nonce)

theorem IdFactory.compose_eq (f : IdFactory) (kind : IdKind) (counter : UInt64) :
    f.compose kind counter = f.stem kind ++ 0x2D :: natText counter.toNat := by
  have hdash : ("-" : Text) = [0x2D] := by decide
  unfold compose stem
  rw [hdash]
  cases f.idPrefix with
  | nil => simp [Text.concat]
  | cons => simp [Text.concat]

/-- A prefix that leaves 35 characters for itself, its dash and the nonce. -/
def PrefixFits (idPrefix nonce : Text) : Prop :=
  (idPrefix = [] ∨ (∀ c ∈ idPrefix, idCharAllowed c = true) ∧
    ∃ front, idPrefix.head? = some front ∧ idEdgeCharAllowed front = true) ∧
  (if idPrefix = [] then 0 else idPrefix.length + 1) + nonce.length ≤ 35

section
variable {f : IdFactory} {kind : IdKind}

theorem IdFactory.stem_length : (f.stem kind).length =
    (if f.idPrefix = [] then 0 else f.idPrefix.length + 1) + f.nonce.length + kind.text.length + 1 := by
  unfold stem
  rw [List.length_append, List.length_append, List.length_cons]
  split
  · rw [List.length_nil]
    omega
  · rw [List.length_append, List.length_singleton]
    omega

theorem IdFactory.stem_head : (f.stem kind).head? =
    if f.idPrefix = [] then kind.text.head? else f.idPrefix.head? := by
  obtain ⟨-, front, hfront, -⟩ := kind.text_ok
  unfold stem
  split
  · cases htext : kind.text with
    | nil =>
      rw [htext] at hfront
      cases hfront
    | cons => rfl
  · rename_i hnonempty
    cases hcons : f.idPrefix with
    | nil => exact absurd hcons hnonempty
    | cons => rfl

/-- The prefix is in the stem, and nothing else that could be refused. -/
theorem IdFactory.stem_allowed (hnonce : ∀ c ∈ f.nonce, idCharAllowed c = true) :
    (∀ c ∈ f.stem kind, idCharAllowed c = true) ↔ ∀ c ∈ f.idPrefix, idCharAllowed c = true := by
  have hdash : idCharAllowed 0x2D = true := by decide
  have hrest : ∀ c ∈ kind.text ++ 0x2D :: f.nonce, idCharAllowed c = true := by
    intro c hc
    rcases List.mem_append.1 hc with hc | hc
    · exact kind.text_ok.1 c hc
    · rcases List.mem_cons.1 hc with rfl | hc
      · exact hdash
      · exact hnonce c hc
  unfold stem
  split
  · rename_i hempty
    rw [hempty, List.nil_append]
    exact ⟨fun _ => nofun, fun _ => hrest⟩
  · refine ⟨fun h c hc => h c (by simp [hc]), fun h c hc => ?_⟩
    rcases List.mem_append.1 hc with hc | hc
    · rcases List.mem_append.1 hc with hc | hc
      · exact h c hc
      · rw [List.mem_singleton.1 hc]
        exact hdash
    · exact hrest c hc

theorem IdFactory.mint_isSome : (f.mint kind).isSome =
    idEncodingOk kind.domain.maxLength (f.compose kind (f.counter + 1)) := by
  unfold mint
  rw [Option.isSome_map, StrongId.parse_isSome]

end

/-- An engine mints an identity of every kind, whatever its counter, exactly when its prefix is made of
the characters of an identity, starts like one and leaves room for the longest. -/
theorem minted_iff (idPrefix : Text) (pid stamp sequence : UInt64) :
    (∀ (kind : IdKind) (counter : UInt64),
      (({ idPrefix, nonce := processNonce pid stamp sequence, counter } : IdFactory).mint kind).isSome =
        true) ↔ PrefixFits idPrefix (processNonce pid stamp sequence) := by
  have hnonce := processNonce_allowed pid stamp sequence
  generalize processNonce pid stamp sequence = nonce at hnonce ⊢
  have hminted (kind : IdKind) (counter : UInt64) :
      (({ idPrefix, nonce, counter } : IdFactory).mint kind).isSome = true ↔
        (if idPrefix = [] then 0 else idPrefix.length + 1) + nonce.length + kind.text.length + 1 + 1 +
          (natText (counter + 1).toNat).length ≤ kind.domain.maxLength ∧
        (∀ c ∈ idPrefix, idCharAllowed c = true) ∧
        ∃ front, (if idPrefix = [] then kind.text.head? else idPrefix.head?) = some front ∧
          idEdgeCharAllowed front = true := by
    rw [IdFactory.mint_isSome, IdFactory.compose_eq, numbered_ok_iff, IdFactory.stem_length,
      IdFactory.stem_allowed hnonce, IdFactory.stem_head]
  constructor
  · intro h
    have hdigits : (natText ((18446744073709551614 : UInt64) + 1).toNat).length = 20 := by decide
    obtain ⟨hroom, hallowed, front, hfront, hedge⟩ :=
      (hminted .session 18446744073709551614).1 (h .session _)
    rw [hdigits] at hroom
    have hbound : IdKind.session.domain.maxLength = 64 := rfl
    have hkind : IdKind.session.text.length = 7 := by decide
    refine ⟨?_, by omega⟩
    by_cases hempty : idPrefix = []
    · exact .inl hempty
    · rw [if_neg hempty] at hfront
      exact .inr ⟨hallowed, front, hfront, hedge⟩
  · intro hfits kind counter
    obtain ⟨hshape, hroom⟩ := hfits
    have hdigits := natText_length (counter + 1)
    have hkind : kind.text.length + 57 ≤ kind.domain.maxLength := by cases kind <;> decide
    refine (hminted kind counter).2 ⟨by omega, ?_⟩
    rcases hshape with rfl | ⟨hallowed, hfront⟩
    · exact ⟨nofun, kind.text_ok.2⟩
    · obtain ⟨front, hfront, hedge⟩ := hfront
      have hnonempty : idPrefix ≠ [] := fun hempty => by
        rw [hempty] at hfront
        cases hfront
      rw [if_neg hnonempty]
      exact ⟨hallowed, front, hfront, hedge⟩

/-- A prefix with a space in it, and one that is too long. -/
theorem unmintable_prefixes :
    (Engine.start { idPrefix := "zone 2" } (processNonce 4242 77 1)).ids.mint .policy = none ∧
    (Engine.start { idPrefix := List.replicate 60 0x61 } (processNonce 4242 77 1)).ids.mint .eval =
      none := by
  decide

/-! ## Sessions of a coordinator -/

theorem sanitizePrefix_allowed (text : Text) : ∀ c ∈ sanitizePrefix text, idCharAllowed c = true :=
  fun _ hc => (List.mem_filter.1 ((List.dropWhile_sublist _).mem hc)).2

theorem sanitizePrefix_head {text : Text} {front : UInt8} (h : (sanitizePrefix text).head? = some front) :
    idEdgeCharAllowed front = true := by
  have hdropped := List.head?_dropWhile_not (fun c => !idEdgeCharAllowed c) (text.filter idCharAllowed)
  unfold sanitizePrefix at h
  rw [h] at hdropped
  simpa using hdropped

/-- Whether the nonce is kept in front of a number of so many digits. -/
def keepsNonce (nonce : Text) (digits : Nat) : Bool := 10 + nonce.length + digits < 64

/-- What a session identity has before its number, with a prefix that was cut already. -/
def sessionStem (head nonce : Text) (digits : Nat) : Text :=
  (if head = [] then [] else head ++ [0x2D]) ++ (("session" : Text) ++
    if keepsNonce nonce digits then 0x2D :: nonce else [])

/-- The room for the prefix. -/
def prefixRoom (nonce : Text) (digits : Nat) : Nat :=
  if keepsNonce nonce digits then 54 - nonce.length - digits else 55 - digits

section
variable {idPrefix nonce head : Text} {digits : Nat}

theorem sessionStem_length : (sessionStem head nonce digits).length =
    (if head = [] then 0 else head.length + 1) + 7 +
      if keepsNonce nonce digits then nonce.length + 1 else 0 := by
  have hkind : ("session" : Text).length = 7 := by decide
  unfold sessionStem
  rw [List.length_append, List.length_append, hkind]
  split <;> split <;> simp only [List.length_nil, List.length_append, List.length_cons] <;> omega

/-- What is cut to its room fits. -/
theorem sessionStem_fits (hhead : head.length ≤ prefixRoom nonce digits) (hdigits : digits ≤ 20) :
    (sessionStem head nonce digits).length + 1 + digits ≤ 64 := by
  rw [sessionStem_length]
  unfold prefixRoom at hhead
  by_cases hkeeps : keepsNonce nonce digits = true
  · have hroom := of_decide_eq_true hkeeps
    rw [if_pos hkeeps] at hhead ⊢
    split <;> omega
  · rw [if_neg hkeeps] at hhead ⊢
    split <;> omega

theorem sessionStem_ok (hnonce : ∀ c ∈ nonce, idCharAllowed c = true)
    (hallowed : ∀ c ∈ head, idCharAllowed c = true)
    (hfront : ∀ front, head.head? = some front → idEdgeCharAllowed front = true) :
    (∀ c ∈ sessionStem head nonce digits, idCharAllowed c = true) ∧
      ∃ front, (sessionStem head nonce digits).head? = some front ∧ idEdgeCharAllowed front = true := by
  have hdash : idCharAllowed 0x2D = true := by decide
  have hkind : ∀ c ∈ ("session" : Text), idCharAllowed c = true := List.all_eq_true.1 (by decide)
  have hrest : ∀ c ∈ ("session" : Text) ++ if keepsNonce nonce digits then 0x2D :: nonce else [],
      idCharAllowed c = true := by
    intro c hc
    rcases List.mem_append.1 hc with hc | hc
    · exact hkind c hc
    · split at hc
      · rcases List.mem_cons.1 hc with rfl | hc
        · exact hdash
        · exact hnonce c hc
      · cases hc
  unfold sessionStem
  cases head with
  | nil =>
    rw [if_pos rfl, List.nil_append]
    exact ⟨hrest, 0x73, rfl, by decide⟩
  | cons front rest =>
    rw [if_neg (List.cons_ne_nil _ _)]
    refine ⟨fun c hc => ?_, front, rfl, hfront front rfl⟩
    rcases List.mem_append.1 hc with hc | hc
    · rcases List.mem_append.1 hc with hc | hc
      · exact hallowed c hc
      · rw [List.mem_singleton.1 hc]
        exact hdash
    · exact hrest c hc

/-- The identity of a session, as it is composed. -/
theorem acceptedSession_text (hnonce : ∀ c ∈ nonce, idCharAllowed c = true) (index : UInt64) :
    let digits := (natText index.toNat).length
    let session := acceptedSession idPrefix nonce index
    session.valid = true ∧ session.text =
      sessionStem ((sanitizePrefix idPrefix).take (prefixRoom nonce digits)) nonce digits ++
        0x2D :: natText index.toNat := by
  intro digits session
  generalize hhead : (sanitizePrefix idPrefix).take (prefixRoom nonce digits) = head
  have hroom : head.length ≤ prefixRoom nonce digits := hhead ▸ List.length_take_le ..
  have hallowed : ∀ c ∈ head, idCharAllowed c = true := fun c hc =>
    sanitizePrefix_allowed idPrefix c (List.mem_of_mem_take (hhead ▸ hc))
  have hfront (front : UInt8) (h : head.head? = some front) : idEdgeCharAllowed front = true := by
    rw [← hhead, List.head?_take] at h
    split at h
    · cases h
    · exact sanitizePrefix_head h
  have hencoding : idEncodingOk 64 (sessionStem head nonce digits ++ 0x2D :: natText index.toNat) = true :=
    (numbered_ok_iff index).2 ⟨sessionStem_fits hroom (natText_length index),
      sessionStem_ok hnonce hallowed hfront⟩
  have hparse : StrongId.parse (sessionStem head nonce digits ++ 0x2D :: natText index.toNat) =
      some (⟨_, .inr hencoding⟩ : SessionId) := dif_pos hencoding
  have hsession : session = ⟨_, .inr hencoding⟩ := by
    have hdash : ("-" : Text) = [0x2D] := by decide
    have hkind : ("session" : Text).length = 7 := by decide
    have hbound : IdDomain.maxLength .sessionId = 64 := rfl
    have hkeeps : keepsNonce nonce digits =
        (true && decide (64 - (7 + (nonce.length + 1) + digits + 2) > 0)) := by
      unfold keepsNonce
      rw [Bool.true_and, decide_eq_decide]
      omega
    have hbudget : prefixRoom nonce digits =
        64 - (7 + (if keepsNonce nonce digits then nonce.length + 1 else 0) + digits + 2) := by
      unfold prefixRoom
      split <;> omega
    have htext : Text.concat [head, if head.isEmpty then [] else "-", "session",
        if keepsNonce nonce digits then Text.concat ["-", nonce] else [], "-", natText index.toNat] =
        sessionStem head nonce digits ++ 0x2D :: natText index.toNat := by
      unfold sessionStem
      rw [hdash]
      cases head <;> cases keepsNonce nonce digits <;> simp [Text.concat]
    show ((StrongId.parse _).orElse _).getD default = _
    simp only [hbound, hkind, if_true]
    rw [← hkeeps, ← hbudget, hhead, htext, hparse]
    rfl
  rw [hsession]
  exact ⟨by simp [StrongId.valid], rfl⟩

/-- The length of a session identity that is not cut. -/
def sessionLength (idPrefix nonce : Text) (index : UInt64) : Nat :=
  let clean := (sanitizePrefix idPrefix).length
  let digits := (natText index.toNat).length
  (if clean = 0 then 0 else clean + 1) + 7 + (if keepsNonce nonce digits then nonce.length + 1 else 0) +
    1 + digits

/-- The stem of the sessions whose numbers have so many digits. -/
def cutStem (idPrefix nonce : Text) (digits : Nat) : Text :=
  sessionStem ((sanitizePrefix idPrefix).take (prefixRoom nonce digits)) nonce digits

/-- An identity that would fit is not cut. -/
theorem cutStem_uncut {index : UInt64} (h : sessionLength idPrefix nonce index ≤ 64) :
    cutStem idPrefix nonce (natText index.toNat).length =
      sessionStem (sanitizePrefix idPrefix) nonce (natText index.toNat).length := by
  unfold cutStem
  rw [List.take_of_length_le]
  unfold sessionLength at h
  dsimp only at h
  unfold prefixRoom
  by_cases hkeeps : keepsNonce nonce (natText index.toNat).length = true
  · rw [if_pos hkeeps] at h ⊢
    split at h <;> omega
  · rw [if_neg hkeeps] at h ⊢
    split at h <;> omega

/-- An identity is no shorter than it would be, unless it fills the bound. -/
theorem cutStem_length (idPrefix nonce : Text) (index : UInt64) :
    min 64 (sessionLength idPrefix nonce index) ≤
      (cutStem idPrefix nonce (natText index.toNat).length).length + 1 +
        (natText index.toNat).length := by
  have hdigits := natText_length index
  have hpositive : prefixRoom nonce (natText index.toNat).length ≠ 0 := by
    unfold prefixRoom
    split
    · rename_i hkeeps
      have hroom := of_decide_eq_true hkeeps
      omega
    · omega
  unfold cutStem sessionLength
  dsimp only
  rw [sessionStem_length, List.length_take]
  generalize sanitizePrefix idPrefix = clean
  have hempty : clean.take (prefixRoom nonce (natText index.toNat).length) = [] ↔ clean.length = 0 := by
    rw [List.take_eq_nil_iff, List.length_eq_zero_iff]
    exact or_iff_right hpositive
  simp only [hempty]
  unfold prefixRoom
  by_cases hkeeps : keepsNonce nonce (natText index.toNat).length = true
  · simp only [if_pos hkeeps]
    split <;> omega
  · simp only [if_neg hkeeps]
    split <;> omega

/-- Two attempts are the same when their numbers are, and their sessions as far as they are not cut. -/
theorem composeAttempt_eq_iff {a b : SessionId} {m n : UInt64} :
    composeAttempt a m = composeAttempt b n ↔ m = n ∧
      a.label.take (64 - ((natText m.toNat).length + 1)) =
        b.label.take (64 - ((natText n.toNat).length + 1)) := by
  constructor
  · intro h
    have htext := congrArg StrongId.text h
    rw [composeAttempt_text, composeAttempt_text] at htext
    exact numbered_inj htext
  · rintro ⟨hnumber, hlabel⟩
    apply StrongId.ext
    rw [composeAttempt_text, composeAttempt_text, hlabel, hnumber]

/-- The sessions and the attempts of a coordinator that accepted so many sessions, none of which got to
a later frame, are well formed and tell each other apart. -/
def AttemptsDistinct (idPrefix nonce : Text) (sessions frames : UInt64) : Prop :=
  ∀ i j m n : UInt64, 1 ≤ i → i ≤ sessions → 1 ≤ j → j ≤ sessions → 1 ≤ m → m ≤ frames →
    1 ≤ n → n ≤ frames → (i, m) ≠ (j, n) →
    (acceptedSession idPrefix nonce i).valid = true ∧
      (composeAttempt (acceptedSession idPrefix nonce i) m).valid = true ∧
      (i ≠ j → acceptedSession idPrefix nonce i ≠ acceptedSession idPrefix nonce j) ∧
      composeAttempt (acceptedSession idPrefix nonce i) m ≠
        composeAttempt (acceptedSession idPrefix nonce j) n

theorem acceptedSession_label (hnonce : ∀ c ∈ nonce, idCharAllowed c = true) (index : UInt64) :
    (acceptedSession idPrefix nonce index).label =
      cutStem idPrefix nonce (natText index.toNat).length ++ 0x2D :: natText index.toNat := by
  obtain ⟨hvalid, htext⟩ := @acceptedSession_text idPrefix nonce hnonce index
  unfold SessionId.label
  rw [if_pos hvalid, htext]
  rfl

theorem acceptedSession_inj (hnonce : ∀ c ∈ nonce, idCharAllowed c = true) {i j : UInt64}
    (h : acceptedSession idPrefix nonce i = acceptedSession idPrefix nonce j) : i = j := by
  have hlabel := congrArg SessionId.label h
  rw [acceptedSession_label hnonce, acceptedSession_label hnonce] at hlabel
  exact (numbered_inj hlabel).1

/-- The attempts of two sessions in a frame are the same when the cut leaves the same of both. -/
theorem same_attempt (hnonce : ∀ c ∈ nonce, idCharAllowed c = true) {i j frame : UInt64} :
    composeAttempt (acceptedSession idPrefix nonce i) frame =
        composeAttempt (acceptedSession idPrefix nonce j) frame ↔
      (cutStem idPrefix nonce (natText i.toNat).length ++ 0x2D :: natText i.toNat).take
          (64 - ((natText frame.toNat).length + 1)) =
        (cutStem idPrefix nonce (natText j.toNat).length ++ 0x2D :: natText j.toNat).take
          (64 - ((natText frame.toNat).length + 1)) := by
  rw [composeAttempt_eq_iff, acceptedSession_label hnonce, acceptedSession_label hnonce]
  exact and_iff_right rfl

/-- The attempts of the first two sessions are cut to the same text when the first one is cut. -/
theorem first_two_collide (hnonce : ∀ c ∈ nonce, idCharAllowed c = true) {frame : UInt64}
    (hcut : 64 < sessionLength idPrefix nonce 1 + 1 + (natText frame.toNat).length) :
    composeAttempt (acceptedSession idPrefix nonce 1) frame =
      composeAttempt (acceptedSession idPrefix nonce 2) frame := by
  have hlength := cutStem_length idPrefix nonce 1
  have hone : natText (1 : UInt64).toNat = [0x31] := by decide
  have htwo : natText (2 : UInt64).toNat = [0x32] := by decide
  have hframe := List.length_pos_iff.2 (natText_ne_nil frame.toNat)
  rw [same_attempt hnonce, hone, htwo]
  rw [hone] at hlength
  simp only [List.length_singleton] at hlength ⊢
  have hroom : 64 - ((natText frame.toNat).length + 1) ≤
      (cutStem idPrefix nonce 1 ++ [0x2D]).length := by
    rw [List.length_append, List.length_singleton]
    omega
  have hsplit (digit : UInt8) : cutStem idPrefix nonce 1 ++ [0x2D, digit] =
      (cutStem idPrefix nonce 1 ++ [0x2D]) ++ [digit] := by simp
  rw [hsplit, hsplit, List.take_append_of_le_length hroom, List.take_append_of_le_length hroom]

/-- The attempt of a session that is cut by one digit is that of the session with the digits before. -/
theorem tens_collide (hnonce : ∀ c ∈ nonce, idCharAllowed c = true) {i j frame : UInt64}
    (hlarge : 10 ≤ i.toNat) (htens : j.toNat = i.toNat / 10)
    (hcut : 64 < sessionLength idPrefix nonce i + 1 + (natText frame.toNat).length)
    (huncut : sessionLength idPrefix nonce j + 1 + (natText frame.toNat).length ≤ 64) :
    composeAttempt (acceptedSession idPrefix nonce i) frame =
      composeAttempt (acceptedSession idPrefix nonce j) frame := by
  obtain ⟨digit, hdigit⟩ := natText_tens hlarge
  rw [← htens] at hdigit
  have hdigits : (natText i.toNat).length = (natText j.toNat).length + 1 := by
    rw [hdigit, List.length_append, List.length_singleton]
  have hframe := List.length_pos_iff.2 (natText_ne_nil frame.toNat)
  have hkeeps : keepsNonce nonce (natText i.toNat).length =
      keepsNonce nonce (natText j.toNat).length := by
    rw [Bool.eq_iff_iff]
    unfold keepsNonce
    rw [decide_eq_true_iff, decide_eq_true_iff]
    refine ⟨fun h => by omega, fun h => ?_⟩
    by_contra hdrops
    -- without its nonce the longer identity would be the shorter one
    unfold sessionLength at hcut huncut
    dsimp only at hcut huncut
    have hkept : keepsNonce nonce (natText j.toNat).length = true := decide_eq_true h
    have hdropped : ¬ keepsNonce nonce (natText i.toNat).length = true := fun h =>
      hdrops (of_decide_eq_true h)
    rw [if_neg hdropped] at hcut
    rw [if_pos hkept] at huncut
    omega
  have hlonger : sessionLength idPrefix nonce i = sessionLength idPrefix nonce j + 1 := by
    unfold sessionLength
    dsimp only
    rw [hkeeps, hdigits]
    omega
  have hstem : cutStem idPrefix nonce (natText i.toNat).length =
      cutStem idPrefix nonce (natText j.toNat).length := by
    rw [cutStem_uncut (by omega), cutStem_uncut (by omega)]
    unfold sessionStem
    rw [hkeeps]
  have hlength := cutStem_length idPrefix nonce j
  have hroom : 64 - ((natText frame.toNat).length + 1) ≤
      (cutStem idPrefix nonce (natText j.toNat).length ++ 0x2D :: natText j.toNat).length := by
    rw [List.length_append, List.length_cons]
    omega
  have hsplit : cutStem idPrefix nonce (natText j.toNat).length ++
      0x2D :: (natText j.toNat ++ [digit]) =
      (cutStem idPrefix nonce (natText j.toNat).length ++ 0x2D :: natText j.toNat) ++ [digit] := by simp
  rw [same_attempt hnonce, hstem, hdigit, hsplit, List.take_append_of_le_length hroom]

theorem cutStem_exact {index : UInt64} (h : sessionLength idPrefix nonce index ≤ 64) :
    (cutStem idPrefix nonce (natText index.toNat).length).length + 1 + (natText index.toNat).length =
      sessionLength idPrefix nonce index := by
  rw [cutStem_uncut h, sessionStem_length]
  unfold sessionLength
  simp only [List.length_eq_zero_iff]

/-- Where the attempts are told apart, none is cut: a session whose attempts are cut has the attempt of
the session with its number less the last digit, or that session's are cut already. -/
theorem uncut_of_distinct (hnonce : ∀ c ∈ nonce, idCharAllowed c = true) {sessions frames : UInt64}
    (h : AttemptsDistinct idPrefix nonce sessions frames) (hsessions : 1 < sessions)
    (hframes : frames ≠ 0) (index : UInt64) (hfirst : 1 ≤ index) (hlast : index ≤ sessions) :
    sessionLength idPrefix nonce index + 1 + (natText frames.toNat).length ≤ 64 := by
  by_contra hcut
  have hframe : 1 ≤ frames := by
    rw [UInt64.le_iff_toNat_le]
    exact Nat.pos_of_ne_zero fun hzero => hframes (UInt64.toNat_inj.1 hzero)
  have hnat : 1 ≤ index.toNat := UInt64.le_iff_toNat_le.1 hfirst
  by_cases hsmall : index.toNat < 10
  · have hsame : sessionLength idPrefix nonce index = sessionLength idPrefix nonce 1 := by
      have hone : (natText (1 : UInt64).toNat).length = 1 := by decide
      unfold sessionLength
      rw [natText_digit hsmall, hone]
    have hcollide := @first_two_collide idPrefix nonce hnonce frames (by omega)
    have htwo : (2 : UInt64) ≤ sessions := by
      rw [UInt64.lt_iff_toNat_lt] at hsessions
      exact UInt64.le_iff_toNat_le.2 hsessions
    exact (h 1 2 frames frames (by decide) (UInt64.le_of_lt hsessions) (by decide) htwo hframe
      (UInt64.le_refl _) hframe (UInt64.le_refl _) (by simp)).2.2.2 hcollide
  · have htens : (index / 10).toNat = index.toNat / 10 := UInt64.toNat_div ..
    have hfirst' : 1 ≤ index / 10 := by
      rw [UInt64.le_iff_toNat_le, htens]
      show 1 ≤ index.toNat / 10
      omega
    have hlast' : index / 10 ≤ sessions := by
      rw [UInt64.le_iff_toNat_le, htens]
      exact Nat.le_trans (Nat.div_le_self ..) (UInt64.le_iff_toNat_le.1 hlast)
    have huncut := uncut_of_distinct hnonce h hsessions hframes (index / 10) hfirst' hlast'
    have hcollide := tens_collide hnonce (by omega) htens (by omega) huncut
    have hne : (index, frames) ≠ (index / 10, frames) := fun heq => by
      have hequal := congrArg UInt64.toNat (congrArg Prod.fst heq)
      dsimp only at hequal
      omega
    exact (h index (index / 10) frames frames hfirst hlast hfirst' hlast' hframe
      (UInt64.le_refl _) hframe (UInt64.le_refl _) hne).2.2.2 hcollide
termination_by index.toNat
decreasing_by
  show (index / 10).toNat < index.toNat
  rw [UInt64.toNat_div]
  show index.toNat / 10 < index.toNat
  omega

/-- A coordinator tells its attempts apart exactly when it has one session at most, or handled no frame,
or no attempt is cut: prefix, nonce, the number of any session and the last frame fit together. -/
theorem attempts_distinct_iff (idPrefix : Text) (pid stamp sequence sessions frames : UInt64) :
    AttemptsDistinct idPrefix (processNonce pid stamp sequence) sessions frames ↔
      sessions ≤ 1 ∨ frames = 0 ∨ ∀ index : UInt64, 1 ≤ index → index ≤ sessions →
        sessionLength idPrefix (processNonce pid stamp sequence) index + 1 +
          (natText frames.toNat).length ≤ 64 := by
  have hnonce := processNonce_allowed pid stamp sequence
  generalize processNonce pid stamp sequence = nonce at hnonce ⊢
  constructor
  · intro h
    by_contra hcontra
    simp only [not_or, UInt64.not_le] at hcontra
    obtain ⟨hsessions, hframes, hcut⟩ := hcontra
    exact hcut (uncut_of_distinct hnonce h hsessions hframes)
  · intro h i j m n hi hi' hj hj' hm hm' hn hn' hpair
    refine ⟨(acceptedSession_text hnonce i).1, composeAttempt_valid .., fun hne heq =>
      hne (acceptedSession_inj hnonce heq), fun heq => hpair ?_⟩
    obtain ⟨rfl, hlabel⟩ := composeAttempt_eq_iff.1 heq
    have hsame : i = j := by
      rcases h with hone | rfl | huncut
      · rw [UInt64.le_antisymm (UInt64.le_trans hi' hone) hi,
          UInt64.le_antisymm (UInt64.le_trans hj' hone) hj]
      · exact absurd (UInt64.le_trans hm hm') (by decide)
      · have hdigits := natText_mono hm'
        have hwhole (index : UInt64) (hfirst : 1 ≤ index) (hlast : index ≤ sessions) :
            (acceptedSession idPrefix nonce index).label.length ≤
              64 - ((natText m.toNat).length + 1) := by
          have hfits := huncut index hfirst hlast
          have hexact := @cutStem_exact idPrefix nonce index (by omega)
          rw [acceptedSession_label hnonce, List.length_append, List.length_cons]
          omega
        rw [List.take_of_length_le (hwhole i hi hi'), List.take_of_length_le (hwhole j hj hj'),
          acceptedSession_label hnonce, acceptedSession_label hnonce] at hlabel
        exact (numbered_inj hlabel).1
    rw [hsame]

end

/-- The first frames of the first two sessions have one attempt under a prefix of 27 characters. -/
theorem zone_attempts_collide : ¬ AttemptsDistinct "arf-coordinator-zone-2-east"
    (processNonce 4242 1234567890123456789 1) 2 1 := fun h =>
  (h 1 2 1 1 (by decide) (by decide) (by decide) (by decide) (by decide) (by decide) (by decide)
    (by decide) (by decide)).2.2.2 (by decide +kernel)

end AdaptiveRouting
