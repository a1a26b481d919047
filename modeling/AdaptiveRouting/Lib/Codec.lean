import Mathlib.Data.List.Nodup
import AdaptiveRouting.Lib.Guard
import AdaptiveRouting.Lib.Framing

/-!
# Canonical codecs

A reader takes a value off the front of a byte string or refuses it. It is `Canonical` for a writer when
what it accepts is exactly what the writer makes of the values in a set: every such value is read back,
and what was read is written as the same bytes. Canonical readers are run one behind another
(`Canonical.bind`, `Canonical.run_put`), counted (`counted_canonical`) and put behind their length
(`Exact.record`); their writers show where they end (`Canonical.delimited`). The reader of a record is
taken apart field by field (`Parses.field`, `Parses.canonical`).
-/

namespace Codecs

open Guard

/-- A byte string. -/
abbrev Bytes := List UInt8

/-- Takes a value off the front, or refuses. -/
abbrev Reader (ε : Type) := StateT Bytes (Except ε)

section
variable {ε ε' α β γ : Type}

/-- The reader accepts what the writer makes of the values in `P`, and nothing else. -/
def Canonical (P : α → Prop) (put : α → Bytes) (get : Reader ε α) : Prop :=
  ∀ bytes a rest, get.run bytes = .ok (a, rest) ↔ P a ∧ bytes = put a ++ rest

/-- The reader accepts what the writer makes of the values in `P` when nothing follows it. -/
def Exact (P : α → Prop) (put : α → Bytes) (get : Reader ε α) : Prop :=
  ∀ bytes a rest, get.run bytes = .ok (a, rest) ↔ P a ∧ bytes = put a ∧ rest = []

/-! ## Sequences of readers -/

theorem run_bind_ok {get : Reader ε α} {k : α → Reader ε β} {bytes : Bytes} {r : β × Bytes}
    (h : (get >>= k).run bytes = .ok r) :
    ∃ a rest, get.run bytes = .ok (a, rest) ∧ (k a).run rest = .ok r := by
  rw [StateT.run_bind] at h
  obtain ⟨⟨a, rest⟩, hget, hk⟩ := bind_ok h
  exact ⟨a, rest, hget, hk⟩

theorem run_bind_of {get : Reader ε α} {k : α → Reader ε β} {bytes rest : Bytes} {a : α}
    (h : get.run bytes = .ok (a, rest)) : (get >>= k).run bytes = (k a).run rest := by
  rw [StateT.run_bind]
  exact bind_of h

/-- A step that reads nothing. -/
theorem lift_bind_ok {x : Except ε α} {k : α → Reader ε β} {bytes : Bytes} {r : β × Bytes}
    (h : ((liftM x : Reader ε α) >>= k).run bytes = .ok r) :
    ∃ a, x = .ok a ∧ (k a).run bytes = .ok r := by
  cases x with
  | error e => cases h
  | ok a => exact ⟨a, rfl, h⟩

theorem lift_bind_of {x : Except ε α} {k : α → Reader ε β} {bytes : Bytes} {a : α}
    (h : x = .ok a) : ((liftM x : Reader ε α) >>= k).run bytes = (k a).run bytes := by
  rw [h]
  rfl

theorem run_lift {x : Except ε α} {bytes rest : Bytes} {a : α} :
    (liftM x : Reader ε α).run bytes = .ok (a, rest) ↔ x = .ok a ∧ rest = bytes := by
  cases x with
  | error e => exact iff_of_false nofun nofun
  | ok b =>
    constructor
    · intro h
      cases h
      exact ⟨rfl, rfl⟩
    · intro h
      obtain ⟨h, rfl⟩ := h
      cases h
      rfl

/-- A guard between two readers. -/
theorem guard_bind_ok {c : Bool} {refusal : ε} {k : Unit → Reader ε β} {bytes : Bytes}
    {r : β × Bytes} (h : ((liftM (refuseIf c refusal) : Reader ε Unit) >>= k).run bytes = .ok r) :
    c = false ∧ (k ()).run bytes = .ok r := by
  obtain ⟨⟨⟩, hc, hk⟩ := lift_bind_ok h
  exact ⟨refuseIf_ok hc, hk⟩

theorem guard_bind_of {c : Bool} {refusal : ε} {k : Unit → Reader ε β} {bytes : Bytes}
    (h : c = false) :
    ((liftM (refuseIf c refusal) : Reader ε Unit) >>= k).run bytes = (k ()).run bytes := by
  rw [h]
  rfl

namespace Canonical

variable {P : α → Prop} {put : α → Bytes} {get : Reader ε α}

/-- What was read is what the writer makes of it. -/
theorem bind (hget : Canonical P put get) {k : α → Reader ε β} {bytes : Bytes} {r : β × Bytes}
    (h : (get >>= k).run bytes = .ok r) :
    ∃ a rest, P a ∧ bytes = put a ++ rest ∧ (k a).run rest = .ok r := by
  obtain ⟨a, rest, hread, hk⟩ := run_bind_ok h
  obtain ⟨ha, hbytes⟩ := (hget bytes a rest).1 hread
  exact ⟨a, rest, ha, hbytes, hk⟩

/-- What was written is read back. -/
theorem run_put (hget : Canonical P put get) {k : α → Reader ε β} {rest : Bytes} {a : α} (ha : P a) :
    (get >>= k).run (put a ++ rest) = (k a).run rest :=
  run_bind_of ((hget _ a rest).2 ⟨ha, rfl⟩)

theorem congr (hget : Canonical P put get) {Q : α → Prop} {put' : α → Bytes}
    (h : ∀ a, P a ↔ Q a) (hput : ∀ a, put' a = put a) : Canonical Q put' get := by
  intro bytes a rest
  rw [hget, h, hput]

/-- The encodings show where they end. -/
theorem delimited (hget : Canonical P put get) : Framing.Delimited P put := by
  intro a b ha hb r s h
  have hreada := (hget (put a ++ r) a r).2 ⟨ha, rfl⟩
  have hreadb := (hget (put a ++ r) b s).2 ⟨hb, h⟩
  cases hreada.symm.trans hreadb
  exact ⟨rfl, rfl⟩

end Canonical

/-- The same reader, with its own refusal. -/
def refusing (refusal : ε') (get : Reader ε α) : Reader ε' α :=
  fun bytes => (get.run bytes).mapError fun _ => refusal

theorem Canonical.refusing {P : α → Prop} {put : α → Bytes} {get : Reader ε α}
    (hget : Canonical P put get) (refusal : ε') : Canonical P put (Codecs.refusing refusal get) := by
  intro bytes a rest
  rw [← hget]
  constructor
  · exact fun h => mapError_ok h
  · exact fun h => mapError_of h

/-- Nothing is left. -/
def finish (refusal : ε) : Reader ε Unit := do
  let rest ← get
  refuseIf (!rest.isEmpty) refusal

theorem finish_bind_ok {refusal : ε} {k : Unit → Reader ε β} {bytes : Bytes} {r : β × Bytes}
    (h : (finish refusal >>= k).run bytes = .ok r) : bytes = [] ∧ (k ()).run [] = .ok r := by
  cases bytes with
  | nil => exact ⟨rfl, h⟩
  | cons => cases h

theorem finish_bind_of {refusal : ε} {k : Unit → Reader ε β} :
    (finish refusal >>= k).run [] = (k ()).run [] := rfl

/-- A reader that leaves nothing. -/
theorem Canonical.exact {P : α → Prop} {put : α → Bytes} {get : Reader ε α}
    (hget : Canonical P put get) (refusal : ε) :
    Exact P put (do
      let a ← get
      finish refusal
      return a) := by
  intro bytes a rest
  constructor
  · intro h
    obtain ⟨b, rest', hb, hbytes, hk⟩ := hget.bind h
    obtain ⟨hempty, hk⟩ := finish_bind_ok hk
    cases hk
    exact ⟨hb, by rw [hbytes, hempty, List.append_nil], rfl⟩
  · intro h
    obtain ⟨ha, rfl, rfl⟩ := h
    rw [← List.append_nil (put a), hget.run_put ha, finish_bind_of]
    rfl

/-- What leaves nothing may be asked again whether something is left. -/
theorem Exact.finished {P : α → Prop} {put : α → Bytes} {get : Reader ε α} (hget : Exact P put get)
    {refusal : ε} : Exact P put (do
      let a ← get
      finish refusal
      return a) := by
  intro bytes a rest
  constructor
  · intro h
    obtain ⟨b, rest', hread, hk⟩ := run_bind_ok h
    obtain ⟨hempty, hk⟩ := finish_bind_ok hk
    cases hk
    obtain ⟨hb, hbytes, -⟩ := (hget _ _ _).1 hread
    exact ⟨hb, hbytes, rfl⟩
  · intro h
    obtain ⟨ha, hbytes, rfl⟩ := h
    rw [run_bind_of ((hget _ _ _).2 ⟨ha, hbytes, rfl⟩), finish_bind_of]
    rfl

/-! ## Records, field by field -/

/-- The reader accepts what the writer makes of the values that satisfy `C` and that `form` rebuilds
from what is still to be read. -/
def Parses (C : β → Prop) (form : β → β) (put : β → Bytes) (get : Reader ε β) : Prop :=
  Canonical (fun b => C b ∧ form b = b) put get

namespace Parses

/-- Nothing is left to be read. -/
theorem done (v : β) : Parses (fun _ => True) (fun _ => v) (fun _ => []) (pure v : Reader ε β) := by
  intro bytes b rest
  constructor
  · intro h
    cases h
    exact ⟨⟨trivial, rfl⟩, rfl⟩
  · intro h
    obtain ⟨⟨-, hv⟩, rfl⟩ := h
    obtain rfl : v = b := hv
    rfl

/-- The whole has been read and is checked. -/
theorem guard {C : β → Prop} {put : β → Bytes} {k : Unit → Reader ε β} {v : β} (c : β → Bool)
    {refusal : ε} (hk : Parses C (fun _ => v) put (k ())) :
    Parses (fun b => c b = true ∧ C b) (fun _ => v) put
      ((liftM (refuseIf (!c v) refusal) : Reader ε Unit) >>= k) := by
  intro bytes b rest
  constructor
  · intro h
    obtain ⟨hc, hread⟩ := guard_bind_ok h
    obtain ⟨⟨hb, hv⟩, hbytes⟩ := (hk _ _ _).1 hread
    obtain rfl : v = b := hv
    exact ⟨⟨⟨by simpa using hc, hb⟩, rfl⟩, hbytes⟩
  · intro h
    obtain ⟨⟨⟨hc, hb⟩, hv⟩, hbytes⟩ := h
    obtain rfl : v = b := hv
    rw [guard_bind_of (by simpa using hc)]
    exact (hk _ _ _).2 ⟨⟨hb, rfl⟩, hbytes⟩

/-- The next field, and what is read behind it. -/
theorem field {P : α → Prop} {putField : α → Bytes} {get : Reader ε α} {C : β → Prop}
    {form : α → β → β} {put : β → Bytes} {k : α → Reader ε β} (hget : Canonical P putField get)
    (proj : β → α) (hk : ∀ a, Parses C (form a) put (k a))
    (hform : ∀ a b, proj (form a b) = a := by intros; rfl) :
    Parses (fun b => P (proj b) ∧ C b) (fun b => form (proj b) b)
      (fun b => putField (proj b) ++ put b) (get >>= k) := by
  intro bytes b rest
  constructor
  · intro h
    obtain ⟨a, rest', ha, rfl, hread⟩ := hget.bind h
    obtain ⟨⟨hc, he⟩, rfl⟩ := (hk a _ _ _).1 hread
    have hproj : proj b = a := by rw [← he, hform]
    cases hproj
    exact ⟨⟨⟨ha, hc⟩, he⟩, (List.append_assoc ..).symm⟩
  · intro h
    obtain ⟨⟨⟨ha, hc⟩, he⟩, rfl⟩ := h
    rw [List.append_assoc, hget.run_put ha]
    exact (hk _ _ _ _).2 ⟨⟨hc, he⟩, rfl⟩

/-- The fields are all there is to a record. -/
theorem canonical {C P : β → Prop} {form : β → β} {put put' : β → Bytes} {get : Reader ε β}
    (h : Parses C form put get) (hform : ∀ b, form b = b) (hput : ∀ b, put' b = put b)
    (hvalid : ∀ b, C b ↔ P b) : Canonical P put' get :=
  Canonical.congr h (fun b => by simp [hform b, hvalid b]) hput

end Parses

/-! ## Words -/

/-- The bytes of a number, the low one first. -/
def littleEndian (width value : Nat) : Bytes :=
  (List.range width).map fun index => (value >>> (8 * index)).toUInt8

/-- The number of some bytes, the low one first. -/
def number : Bytes → Nat
  | [] => 0
  | byte :: rest => byte.toNat + number rest <<< 8

theorem littleEndian_succ (width value : Nat) :
    littleEndian (width + 1) value = value.toUInt8 :: littleEndian width (value >>> 8) := by
  unfold littleEndian
  rw [List.range_succ_eq_map, List.map_cons, List.map_map]
  congr 1
  refine List.map_congr_left fun index _ => ?_
  show (value >>> (8 * (index + 1))).toUInt8 = _
  rw [← Nat.shiftRight_add, Nat.mul_succ, Nat.add_comm]

theorem littleEndian_length (width value : Nat) : (littleEndian width value).length = width := by
  simp [littleEndian]

/-- The numbers of so many bytes. -/
def wordSize (width : Nat) : Nat := 1 <<< (8 * width)

theorem wordSize_succ (width : Nat) : wordSize (width + 1) = wordSize width * 256 := by
  unfold wordSize
  rw [Nat.mul_succ, Nat.shiftLeft_add, Nat.shiftLeft_eq _ 8]

theorem number_littleEndian {width value : Nat} (h : value < wordSize width) :
    number (littleEndian width value) = value := by
  induction width generalizing value with
  | zero =>
    have hzero : value = 0 := Nat.lt_one_iff.1 h
    rw [hzero]
    rfl
  | succ width ih =>
    have hshift : value >>> 8 = value / 256 := Nat.shiftRight_eq_div_pow value 8
    have hlow : value.toUInt8.toNat = value % 256 := rfl
    have hhigh : value / 256 < wordSize width := by
      rw [wordSize_succ] at h
      omega
    rw [littleEndian_succ, number, hshift, ih hhigh, hlow, Nat.shiftLeft_eq]
    omega

theorem littleEndian_number (bytes : Bytes) :
    littleEndian bytes.length (number bytes) = bytes := by
  induction bytes with
  | nil => rfl
  | cons byte rest ih =>
    have hbyte := byte.toNat_lt
    have hlow : (number (byte :: rest)).toUInt8 = byte := by
      apply UInt8.toNat_inj.1
      simp [number, Nat.toUInt8, Nat.shiftLeft_eq]
    have hhigh : number (byte :: rest) >>> 8 = number rest := by
      rw [number, Nat.shiftRight_eq_div_pow, Nat.shiftLeft_eq]
      omega
    rw [List.length_cons, littleEndian_succ, hlow, hhigh, ih]

/-- The bytes behind a number. -/
theorem eq_littleEndian {bytes : Bytes} {width value : Nat} (hlength : bytes.length = width)
    (h : number bytes = value) : bytes = littleEndian width value := by
  rw [← hlength, ← h, littleEndian_number]

theorem number_lt (bytes : Bytes) : number bytes < wordSize bytes.length := by
  induction bytes with
  | nil => exact Nat.zero_lt_one
  | cons byte rest ih =>
    have hbyte := byte.toNat_lt
    rw [number, List.length_cons, wordSize_succ, Nat.shiftLeft_eq]
    omega

/-- The next bytes. -/
def take (refusal : ε) (count : Nat) : Reader ε Bytes := fun bytes =>
  if bytes.length < count then .error refusal else .ok (bytes.take count, bytes.drop count)

theorem take_canonical (refusal : ε) (count : Nat) :
    Canonical (fun bytes => bytes.length = count) (fun bytes => bytes) (take refusal count) := by
  intro bytes taken rest
  unfold take
  show (if bytes.length < count then Except.error refusal
    else Except.ok (bytes.take count, bytes.drop count)) = _ ↔ _
  split
  · rename_i hshort
    refine iff_of_false (by simp) ?_
    intro h
    rw [h.2, List.length_append, h.1] at hshort
    omega
  · rename_i hlong
    constructor
    · intro h
      cases h
      exact ⟨List.length_take_of_le (Nat.not_lt.1 hlong), (List.take_append_drop count bytes).symm⟩
    · intro h
      obtain ⟨rfl, rfl⟩ := h
      simp

/-- A word of so many bytes. -/
def word (refusal : ε) (width : Nat) (decode : Nat → α) : Reader ε α := do
  let bytes ← take refusal width
  return decode (number bytes)

/-- A type of words reads back what it writes. -/
theorem word_canonical (refusal : ε) {width : Nat} {encode : α → Nat} {decode : Nat → α}
    (hread : ∀ a, decode (encode a) = a) (hbound : ∀ a, encode a < wordSize width)
    (hwrite : ∀ n, n < wordSize width → encode (decode n) = n) :
    Canonical (fun _ => True) (fun a => littleEndian width (encode a)) (word refusal width decode) := by
  intro bytes a rest
  unfold word
  constructor
  · intro h
    obtain ⟨taken, rest', hlength, rfl, hk⟩ := (take_canonical refusal width).bind h
    cases hk
    have hlt := number_lt taken
    rw [hlength] at hlt
    have hback := littleEndian_number taken
    rw [hlength] at hback
    refine ⟨trivial, ?_⟩
    dsimp only
    rw [hwrite _ hlt, hback]
  · intro h
    obtain ⟨-, rfl⟩ := h
    rw [(take_canonical refusal width).run_put (littleEndian_length width (encode a)),
      number_littleEndian (hbound a), hread]
    rfl

/-! ## Enumerations -/

/-- The values of an enumeration, by their codes. -/
structure Enumeration (ω α : Type) where
  values : List α
  code : α → ω
  complete : ∀ a, a ∈ values
  distinct : (values.map code).Nodup

namespace Enumeration

variable {ω : Type} [DecidableEq ω]

/-- The value with the next code. -/
def read (e : Enumeration ω α) (get : Reader ε ω) (refusal : ε) : Reader ε α := do
  let raw ← get
  orRefuse (e.values.find? fun a => e.code a = raw) refusal

theorem find_code (e : Enumeration ω α) (a : α) :
    (e.values.find? fun b => e.code b = e.code a) = some a := by
  cases hfind : e.values.find? fun b => e.code b = e.code a with
  | none => simpa using List.find?_eq_none.1 hfind a (e.complete a)
  | some b =>
    have hcode : e.code b = e.code a := by simpa using List.find?_some hfind
    rw [List.inj_on_of_nodup_map e.distinct (e.complete b) (e.complete a) hcode]

theorem canonical (e : Enumeration ω α) {put : ω → Bytes} {get : Reader ε ω}
    (hget : Canonical (fun _ => True) put get) (refusal : ε) :
    Canonical (fun _ => True) (fun a => put (e.code a)) (e.read get refusal) := by
  intro bytes a rest
  unfold read
  constructor
  · intro h
    obtain ⟨raw, rest', -, rfl, hk⟩ := hget.bind h
    obtain ⟨hfind, rfl⟩ := run_lift.1 hk
    have hcode : e.code a = raw := by simpa using List.find?_some (orRefuse_ok hfind)
    exact ⟨trivial, by simp [hcode]⟩
  · intro h
    obtain ⟨-, rfl⟩ := h
    rw [hget.run_put trivial, e.find_code]
    rfl

end Enumeration

/-! ## Lengths and counts -/

section
variable {N : Nat → Prop} {putSize : Nat → Bytes} {limit : Nat}

/-- The bytes behind their number. -/
def sized (size : Reader ε Nat) (limit : Nat) (refusal : ε) : Reader ε Bytes := do
  let count ← size
  refuseIf (limit < count) refusal
  take refusal count

theorem sized_canonical {size : Reader ε Nat} (hsize : Canonical N putSize size)
    (hlimit : ∀ n, n ≤ limit → N n) (refusal : ε) :
    Canonical (fun bytes => bytes.length ≤ limit) (fun bytes => putSize bytes.length ++ bytes)
      (sized size limit refusal) := by
  intro bytes a rest
  unfold sized
  constructor
  · intro h
    obtain ⟨count, rest', hcount, rfl, hk⟩ := hsize.bind h
    obtain ⟨hle, hk⟩ := guard_bind_ok hk
    obtain ⟨rfl, rfl⟩ := (take_canonical refusal count _ _ _).1 hk
    exact ⟨by simpa using hle, (List.append_assoc ..).symm⟩
  · intro h
    obtain ⟨hle, rfl⟩ := h
    rw [List.append_assoc, hsize.run_put (hlimit _ hle), guard_bind_of (by simpa using hle)]
    exact (take_canonical refusal _ _ _ _).2 ⟨rfl, rfl⟩

/-- A record read out of its own bytes. -/
def record (bytes : Reader ε Bytes) (get : Reader ε α) : Reader ε α := do
  let inner ← bytes
  let read ← get.run inner
  return read.1

theorem Exact.record {P : α → Prop} {put : α → Bytes} {get : Reader ε α} (hget : Exact P put get)
    {B : Bytes → Prop} {putBytes : Bytes → Bytes} {bytes : Reader ε Bytes}
    (hbytes : Canonical B putBytes bytes) :
    Canonical (fun a => P a ∧ B (put a)) (fun a => putBytes (put a)) (Codecs.record bytes get) := by
  intro input a rest
  unfold Codecs.record
  constructor
  · intro h
    obtain ⟨inner, rest', hinner, rfl, hk⟩ := hbytes.bind h
    obtain ⟨⟨b, left⟩, hread, hk⟩ := lift_bind_ok hk
    cases hk
    obtain ⟨ha, rfl, -⟩ := (hget _ _ _).1 hread
    exact ⟨⟨ha, hinner⟩, rfl⟩
  · intro h
    obtain ⟨⟨ha, hinner⟩, rfl⟩ := h
    rw [hbytes.run_put hinner, lift_bind_of ((hget _ _ _).2 ⟨ha, rfl, rfl⟩)]
    rfl

/-- So many elements, each read in view of those ahead of it. -/
def items (get : List α → Reader ε α) : Nat → List α → Reader ε (List α)
  | 0, ahead => return ahead
  | count + 1, ahead => do
    let a ← get ahead
    items get count (ahead ++ [a])

/-- Every element satisfies `P` of those ahead of it. -/
def Each (P : List α → α → Prop) : List α → List α → Prop
  | _, [] => True
  | ahead, a :: rest => P ahead a ∧ Each P (ahead ++ [a]) rest

/-- A rule that does not look ahead. -/
theorem each_const {P : α → Prop} {ahead elements : List α} :
    Each (fun _ => P) ahead elements ↔ ∀ a ∈ elements, P a := by
  induction elements generalizing ahead with
  | nil => simp [Each]
  | cons a rest ih => simp [Each, ih]

theorem each_congr {P Q : List α → α → Prop} (h : ∀ ahead a, P ahead a ↔ Q ahead a)
    {ahead elements : List α} : Each P ahead elements ↔ Each Q ahead elements := by
  induction elements generalizing ahead with
  | nil => exact Iff.rfl
  | cons a rest ih => exact and_congr (h ahead a) ih

/-- Elements that no two of which share their key. -/
theorem each_distinct {κ : Type} (key : α → κ) (P : α → Prop) {ahead elements : List α} :
    Each (fun ahead a => P a ∧ ∀ b ∈ ahead, key b ≠ key a) ahead elements ↔
      (∀ a ∈ elements, P a) ∧ (elements.map key).Nodup ∧
        ∀ a ∈ elements, ∀ b ∈ ahead, key b ≠ key a := by
  induction elements generalizing ahead with
  | nil => simp [Each]
  | cons a rest ih =>
    simp only [Each, ih, List.mem_cons, List.mem_append, List.map_cons, List.nodup_cons,
      List.mem_map, List.not_mem_nil, or_false]
    constructor
    · rintro ⟨⟨ha, hfresh⟩, hrest, hdistinct, happart⟩
      refine ⟨?_, ⟨?_, hdistinct⟩, ?_⟩
      · rintro b (rfl | hb)
        · exact ha
        · exact hrest b hb
      · rintro ⟨b, hb, hkey⟩
        exact happart b hb a (.inr rfl) hkey.symm
      · rintro b (rfl | hb) c hc
        · exact hfresh c hc
        · exact happart b hb c (.inl hc)
    · rintro ⟨hall, ⟨hnot, hdistinct⟩, happart⟩
      refine ⟨⟨hall a (.inl rfl), happart a (.inl rfl)⟩, fun b hb => hall b (.inr hb), hdistinct, ?_⟩
      rintro b hb c (hc | rfl)
      · exact happart b (.inr hb) c hc
      · exact fun hkey => hnot ⟨b, hb, hkey.symm⟩

theorem items_canonical {P : List α → α → Prop} {put : α → Bytes} {get : List α → Reader ε α}
    (hget : ∀ ahead, Canonical (P ahead) put (get ahead)) (count : Nat) (ahead : List α)
    (bytes : Bytes) (read : List α) (rest : Bytes) :
    (items get count ahead).run bytes = .ok (read, rest) ↔
      ∃ elements, read = ahead ++ elements ∧ elements.length = count ∧ Each P ahead elements ∧
        bytes = elements.flatMap put ++ rest := by
  induction count generalizing ahead bytes with
  | zero =>
    constructor
    · intro h
      cases h
      exact ⟨[], (List.append_nil _).symm, rfl, trivial, rfl⟩
    · intro h
      obtain ⟨elements, rfl, hcount, -, rfl⟩ := h
      rw [List.length_eq_zero_iff] at hcount
      rw [hcount, List.append_nil]
      rfl
  | succ count ih =>
    unfold items
    constructor
    · intro h
      obtain ⟨a, rest', ha, rfl, hk⟩ := (hget ahead).bind h
      obtain ⟨elements, rfl, hcount, heach, rfl⟩ := (ih _ _).1 hk
      refine ⟨a :: elements, by simp, by simp [hcount], ⟨ha, heach⟩, by simp⟩
    · intro h
      obtain ⟨elements, rfl, hcount, heach, rfl⟩ := h
      cases elements with
      | nil => cases hcount
      | cons a elements =>
        rw [List.flatMap_cons, List.append_assoc, (hget ahead).run_put heach.1]
        exact (ih _ _).2 ⟨elements, by simp, Nat.succ.inj hcount, heach.2, rfl⟩

/-- The elements behind their number. -/
def counted (size : Reader ε Nat) (limit : Nat) (refusal : ε) (get : List α → Reader ε α) :
    Reader ε (List α) := do
  let count ← size
  refuseIf (limit < count) refusal
  items get count []

theorem counted_canonical {size : Reader ε Nat} (hsize : Canonical N putSize size)
    (hlimit : ∀ n, n ≤ limit → N n) (refusal : ε) {P : List α → α → Prop} {put : α → Bytes}
    {get : List α → Reader ε α} (hget : ∀ ahead, Canonical (P ahead) put (get ahead)) :
    Canonical (fun elements => elements.length ≤ limit ∧ Each P [] elements)
      (fun elements => putSize elements.length ++ elements.flatMap put)
      (counted size limit refusal get) := by
  intro bytes read rest
  unfold counted
  constructor
  · intro h
    obtain ⟨count, rest', hcount, rfl, hk⟩ := hsize.bind h
    obtain ⟨hle, hk⟩ := guard_bind_ok hk
    obtain ⟨elements, rfl, rfl, heach, rfl⟩ := (items_canonical hget _ _ _ _ _).1 hk
    exact ⟨⟨by simpa using hle, heach⟩, (List.append_assoc ..).symm⟩
  · intro h
    obtain ⟨⟨hle, heach⟩, rfl⟩ := h
    rw [List.append_assoc, hsize.run_put (hlimit _ hle), guard_bind_of (by simpa using hle)]
    exact (items_canonical hget _ _ _ _ _).2 ⟨read, rfl, rfl, heach, rfl⟩

end

end

end Codecs
