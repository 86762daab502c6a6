import ReloadProbe.Proofs.Wire.Truncation

/-!
Readers by their place. A reader is told once more with the whole of its data and the place up to
which it is read; it is stopped, and has no result, where a place lies behind the end. From a place
within the data that never happens, whatever is read and whatever fails: the place moves forward or
stays, and what is found and how far it moves hangs on the unread octets alone. `Halts` says of a
failing operation how far exactly.
-/
namespace ReloadProbe.Wire

open Read (Operation Found)

/-- A reader of all data from a place on: what it finds, and the place after that. -/
def Seek (α : Type) := (data : Bytes) → (place : Nat) → Option (Except WireError α × Nat)

namespace Seek

variable {α β : Type}

def fail (e : WireError) : Seek α := fun _ place => some (.error e, place)

instance : Monad Seek where
  pure a := fun _ place => some (.ok a, place)
  bind p f := fun data place =>
    match p data place with
    | some (.ok a, next) => f a data next
    | some (.error e, next) => some (.error e, next)
    | none => none

/-- How many octets are unread; there is no such number behind the end. -/
def remaining? (data : Bytes) (place : Nat) : Option Nat :=
  if place ≤ data.length then some (data.length - place) else none

/-- The octets from one place to another one, both within the data and in this order. -/
def slice? (data : Bytes) (start stop : Nat) : Option Bytes :=
  if start ≤ stop ∧ stop ≤ data.length then some ((data.take stop).drop start) else none

/-- The next `n` octets. The unread ones are counted first, also where that is not needed. -/
def take (n : Nat) : Seek Bytes := fun data place => do
  let available ← remaining? data place
  match slice? data place (place + n) with
  | some taken => return (.ok taken, place + n)
  | none => return (.error (.truncated n available), place)

def octet : Seek UInt8 := do return UInt8.ofNat (Bytes.toNat (← take 1))

def uint16 : Seek UInt16 := do return UInt16.ofNat (Bytes.toNat (← take 2))

def uint32 : Seek UInt32 := do return UInt32.ofNat (Bytes.toNat (← take 4))

def varInt : Seek Nat := fun data place => do
  let unread ← slice? data place data.length
  match VarInt.decode unread with
  | .ok (some (n, size)) => return (.ok n, place + size)
  | .ok none => return (.error (.truncated (unread.length + 1) unread.length), place)
  | .error e => return (.error e, place)

def binary : Seek Bytes := do take (← uint16).toNat

def text : Seek String := do
  match Utf8.decode? (← binary) with
  | some s => return s
  | none => fail .invalidUtf8

def properties : Seek (List Property) := do
  let block ← take (← varInt)
  match Property.decodeAll block with
  | .ok ps => return ps
  | .error e => fail e

def rest : Seek Bytes := fun data place => do
  return (.ok (← slice? data place data.length), data.length)

def operation : Operation → Seek Found
  | .take n => .octets <$> take n
  | .octet => (fun b => .number b.toNat) <$> octet
  | .uint16 => (fun n => .number n.toNat) <$> uint16
  | .uint32 => (fun n => .number n.toNat) <$> uint32
  | .varInt => .number <$> varInt
  | .binary => .octets <$> binary
  | .text => .text <$> text
  | .properties => .properties <$> properties
  | .rest => .octets <$> rest

/-- The seeker does with data what the reader does with the octets that are unread of them. -/
def Follows (q : Seek α) (p : Read α) : Prop :=
  ∀ (data : Bytes) (place : Nat), place ≤ data.length → ∃ found next,
    q data place = some (found, next) ∧ place ≤ next ∧ next ≤ data.length ∧
      p (data.drop place) = (found, data.drop next)

theorem follows_pure (a : α) : Follows (pure a) (pure a) :=
  fun _ place within => ⟨.ok a, place, rfl, Nat.le_refl place, within, rfl⟩

theorem follows_fail (e : WireError) : Follows (fail e : Seek α) (Read.fail e) :=
  fun _ place within => ⟨.error e, place, rfl, Nat.le_refl place, within, rfl⟩

theorem Follows.bind {q : Seek α} {p : Read α} {g : α → Seek β} {f : α → Read β}
    (first : Follows q p) (second : ∀ a, Follows (g a) (f a)) : Follows (q >>= g) (p >>= f) := by
  intro data place within
  obtain ⟨found, next, sought, forward, within, read⟩ := first data place within
  cases found with
  | error e =>
    refine ⟨.error e, next, ?_, forward, within, Read.bind_eq_error.mpr (.inl read)⟩
    simp only [Bind.bind, sought]
  | ok a =>
    obtain ⟨found, last, sought', forward', within', read'⟩ := second a data next within
    refine ⟨found, last, ?_, Nat.le_trans forward forward', within', ?_⟩
    · simp only [Bind.bind, sought, sought']
    · rw [Read.bind_of_ok read, read']

theorem Follows.map {q : Seek α} {p : Read α} (h : Follows q p) (g : α → β) :
    Follows (g <$> q) (g <$> p) :=
  h.bind fun a => follows_pure (g a)

section Steps

variable {data : Bytes} {place : Nat}

theorem remaining?_of_le (within : place ≤ data.length) :
    remaining? data place = some (data.drop place).length := by
  rw [remaining?, if_pos within, List.length_drop]

theorem slice?_of_le {n : Nat} (within : place ≤ data.length)
    (enough : n ≤ (data.drop place).length) :
    slice? data place (place + n) = some ((data.drop place).take n) := by
  rw [List.length_drop] at enough
  rw [slice?, if_pos ⟨Nat.le_add_right place n, by omega⟩, List.drop_take, Nat.add_sub_cancel_left]

theorem slice?_of_lt {n : Nat} (short : (data.drop place).length < n) :
    slice? data place (place + n) = none := by
  rw [List.length_drop] at short
  rw [slice?, if_neg (by omega)]

theorem slice?_length (within : place ≤ data.length) :
    slice? data place data.length = some (data.drop place) := by
  rw [slice?, if_pos ⟨within, Nat.le_refl _⟩, List.take_length]

end Steps

theorem follows_take (n : Nat) : Follows (take n) (Read.take n) := by
  intro data place within
  rw [take, remaining?_of_le within, Option.bind_eq_bind, Option.bind_some, Read.take]
  by_cases enough : n ≤ (data.drop place).length
  · rw [slice?_of_le within enough, if_pos enough, List.drop_drop]
    rw [List.length_drop] at enough
    exact ⟨_, place + n, rfl, Nat.le_add_right place n, by omega, rfl⟩
  · rw [slice?_of_lt (Nat.lt_of_not_le enough), if_neg enough]
    exact ⟨_, place, rfl, Nat.le_refl place, within, rfl⟩

theorem follows_octet : Follows octet Read.octet := (follows_take 1).bind fun _ => follows_pure _

theorem follows_uint16 : Follows uint16 Read.uint16 :=
  (follows_take 2).bind fun _ => follows_pure _

theorem follows_uint32 : Follows uint32 Read.uint32 :=
  (follows_take 4).bind fun _ => follows_pure _

theorem follows_varInt : Follows varInt Read.varInt := by
  intro data place within
  rw [varInt, slice?_length within, Option.bind_eq_bind, Option.bind_some, Read.varInt]
  rcases found : VarInt.decode (data.drop place) with e | _ | ⟨n, size⟩
  · exact ⟨_, place, rfl, Nat.le_refl place, within, rfl⟩
  · exact ⟨_, place, rfl, Nat.le_refl place, within, rfl⟩
  · have short := (VarInt.decode_size found).2
    rw [List.length_drop] at short
    exact ⟨_, place + size, rfl, Nat.le_add_right place size, by omega,
      Prod.ext rfl List.drop_drop⟩

theorem follows_binary : Follows binary Read.binary :=
  follows_uint16.bind fun n => follows_take n.toNat

theorem follows_text : Follows text Read.text := by
  refine follows_binary.bind fun data => ?_
  cases Utf8.decode? data with
  | some s => exact follows_pure s
  | none => exact follows_fail .invalidUtf8

theorem follows_properties : Follows properties Property.readBlock := by
  refine follows_varInt.bind fun n => (follows_take n).bind fun block => ?_
  cases Property.decodeAll block with
  | ok ps => exact follows_pure ps
  | error e => exact follows_fail e

theorem follows_rest : Follows rest Read.rest := by
  intro data place within
  rw [rest, slice?_length within]
  exact ⟨_, data.length, rfl, within, Nat.le_refl _, by rw [Read.rest, List.drop_length]⟩

theorem follows_operation (op : Operation) : Follows (operation op) op.run := by
  cases op with
  | take n => exact (follows_take n).map _
  | octet => exact follows_octet.map _
  | uint16 => exact follows_uint16.map _
  | uint32 => exact follows_uint32.map _
  | varInt => exact follows_varInt.map _
  | binary => exact follows_binary.map _
  | text => exact follows_text.map _
  | properties => exact follows_properties.map _
  | rest => exact follows_rest.map _

end Seek

namespace Read

/-- How many octets an operation takes, if that does not hang on them. -/
def Operation.size? : Operation → Option Nat
  | take n => some n
  | octet => some 1
  | uint16 => some 2
  | uint32 => some 4
  | _ => none

/-- No variable byte integer can be read, as it is cut off or malformed. -/
inductive Uncounted (bs : Bytes) : WireError → Prop where
  | cut (unfinished : VarInt.decode bs = .ok none) :
      Uncounted bs (.truncated (bs.length + 1) bs.length)
  | malformed {e : WireError} (fault : VarInt.decode bs = .error e) : Uncounted bs e

/-- An operation fails on the octets that are unread, and moves so far before it does. -/
inductive Halts (bs : Bytes) : Operation → WireError → Nat → Prop where
  | short {op : Operation} {n : Nat} (fixed : op.size? = some n) (less : bs.length < n) :
      Halts bs op (.truncated n bs.length) 0
  | uncounted {e : WireError} (fault : Uncounted bs e) : Halts bs .varInt e 0
  | unmeasured {op : Operation} (field : op = .binary ∨ op = .text) (less : bs.length < 2) :
      Halts bs op (.truncated 2 bs.length) 0
  | cutField {op : Operation} {n : UInt16} {body : Bytes} (field : op = .binary ∨ op = .text)
      (joined : bs = Bytes.ofUInt16 n ++ body) (less : body.length < n.toNat) :
      Halts bs op (.truncated n.toNat body.length) 2
  | garbled {n : UInt16} {body more : Bytes} (joined : bs = Bytes.ofUInt16 n ++ (body ++ more))
      (size : body.length = n.toNat) (bad : Utf8.decode? body = none) :
      Halts bs .text .invalidUtf8 (2 + n.toNat)
  | unannounced {e : WireError} (fault : Uncounted bs e) : Halts bs .properties e 0
  | cutBlock {n size : Nat} (announced : VarInt.decode bs = .ok (some (n, size)))
      (less : (bs.drop size).length < n) :
      Halts bs .properties (.truncated n (bs.drop size).length) size
  | badProperty {n size : Nat} {e : WireError}
      (announced : VarInt.decode bs = .ok (some (n, size))) (whole : n ≤ (bs.drop size).length)
      (fault : Property.decodeAll ((bs.drop size).take n) = .error e) :
      Halts bs .properties e (size + n)

section Failures

variable {bs left : Bytes} {e : WireError} {op : Operation} {k n : Nat}

theorem Operation.run_fixed_eq_error (fixed : op.size? = some n) :
    op.run bs = (.error e, left) ↔ Read.take n bs = (.error e, left) := by
  cases op with
  | take m =>
    cases fixed
    exact map_eq_error
  | octet | uint16 | uint32 =>
    cases fixed
    exact map_eq_error.trans map_eq_error
  | varInt | binary | text | properties | rest => cases fixed

theorem varInt_eq_error :
    Read.varInt bs = (.error e, left) ↔ Uncounted bs e ∧ left = bs := by
  unfold Read.varInt
  constructor
  · intro h
    split at h
    · cases h
    · rename_i found
      cases h
      exact ⟨.cut found, rfl⟩
    · rename_i found
      cases h
      exact ⟨.malformed found, rfl⟩
  · rintro ⟨found | found, rfl⟩ <;> rw [found]

theorem varInt_of_decode {size : Nat} (found : VarInt.decode bs = .ok (some (n, size))) :
    Read.varInt bs = (.ok n, bs.drop size) := by
  rw [Read.varInt, found]

theorem exists_decode_of_varInt (read : Read.varInt bs = (.ok n, left)) :
    ∃ size, VarInt.decode bs = .ok (some (n, size)) ∧ left = bs.drop size := by
  obtain ⟨form, spelled, four, rfl⟩ := varInt_eq_ok.mp read
  exact ⟨form.length, spelled.decode four left, List.drop_left.symm⟩

/-- A field that cannot be read lacks its length, or octets behind that. -/
theorem binary_eq_error :
    Read.binary bs = (.error e, left) ↔
      bs.length < 2 ∧ e = .truncated 2 bs.length ∧ left = bs ∨
      ∃ n, bs = Bytes.ofUInt16 n ++ left ∧ left.length < n.toNat ∧
        e = .truncated n.toNat left.length := by
  refine bind_eq_error.trans (or_congr (map_eq_error.trans take_eq_error) ?_)
  constructor
  · rintro ⟨n, mid, length, cut⟩
    obtain ⟨less, rfl, rfl⟩ := take_eq_error.mp cut
    exact ⟨n, uint16_eq_ok.mp length, less, rfl⟩
  · rintro ⟨n, joined, less, rfl⟩
    exact ⟨n, left, uint16_eq_ok.mpr joined, take_eq_error.mpr ⟨less, rfl, rfl⟩⟩

/-- A text fails as its field does, or the field is there and is no UTF-8. -/
theorem text_eq_error :
    Read.text bs = (.error e, left) ↔
      Read.binary bs = (.error e, left) ∨
      ∃ n body, bs = Bytes.ofUInt16 n ++ (body ++ left) ∧ body.length = n.toNat ∧
        Utf8.decode? body = none ∧ e = .invalidUtf8 := by
  refine bind_eq_error.trans (or_congr_right ⟨?_, ?_⟩)
  · rintro ⟨body, mid, read, failed⟩
    obtain ⟨n, joined, size⟩ := binary_eq_ok_sized.mp read
    cases bad : Utf8.decode? body with
    | some s =>
      rw [bad] at failed
      cases failed
    | none =>
      rw [bad] at failed
      cases failed
      exact ⟨n, body, joined, size, bad, rfl⟩
  · rintro ⟨n, body, joined, size, bad, rfl⟩
    refine ⟨body, left, binary_eq_ok_sized.mpr ⟨n, joined, size⟩, ?_⟩
    rw [bad]
    rfl

/-- A block fails at its length, at the octets that its length says, or at a property in these. -/
theorem readBlock_eq_error :
    Property.readBlock bs = (.error e, left) ↔
      Uncounted bs e ∧ left = bs ∨
      ∃ n size, VarInt.decode bs = .ok (some (n, size)) ∧
        ((bs.drop size).length < n ∧ e = .truncated n (bs.drop size).length ∧
            left = bs.drop size ∨
          n ≤ (bs.drop size).length ∧ Property.decodeAll ((bs.drop size).take n) = .error e ∧
            left = bs.drop (size + n)) := by
  refine bind_eq_error.trans (or_congr varInt_eq_error ⟨?_, ?_⟩)
  · rintro ⟨n, mid, length, more⟩
    obtain ⟨size, announced, rfl⟩ := exists_decode_of_varInt length
    refine ⟨n, size, announced, ?_⟩
    rcases bind_eq_error.mp more with cut | ⟨block, mid, took, failed⟩
    · exact .inl (take_eq_error.mp cut)
    · obtain ⟨rfl, joined⟩ := take_eq_ok.mp took
      rw [← List.drop_drop, joined, List.take_left, List.drop_left, List.length_append]
      cases parsed : Property.decodeAll block with
      | ok ps =>
        rw [parsed] at failed
        cases failed
      | error e =>
        rw [parsed] at failed
        cases failed
        exact .inr ⟨Nat.le_add_right .., rfl, rfl⟩
  · rintro ⟨n, size, announced, ⟨less, rfl, rfl⟩ | ⟨whole, fault, rfl⟩⟩
    · exact ⟨n, _, varInt_of_decode announced,
        bind_eq_error.mpr (.inl (take_eq_error.mpr ⟨less, rfl, rfl⟩))⟩
    · have took : Read.take n (bs.drop size) =
          (.ok ((bs.drop size).take n), bs.drop (size + n)) := by
        rw [Read.take, if_pos whole, List.drop_drop]
      refine ⟨n, _, varInt_of_decode announced, bind_eq_error.mpr (.inr ⟨_, _, took, ?_⟩)⟩
      rw [fault]
      rfl

theorem Halts.of_field (field : op = .binary ∨ op = .text)
    (failed : Read.binary bs = (.error e, left)) : ∃ k, Halts bs op e k ∧ left = bs.drop k := by
  rcases binary_eq_error.mp failed with ⟨less, rfl, rfl⟩ | ⟨n, joined, less, rfl⟩
  · exact ⟨0, .unmeasured field less, rfl⟩
  · exact ⟨2, .cutField field joined less, by rw [joined]; rfl⟩

theorem Halts.exists_of_run (failed : op.run bs = (.error e, left)) :
    ∃ k, Halts bs op e k ∧ left = bs.drop k := by
  have fixed {n : Nat} (size : op.size? = some n) : ∃ k, Halts bs op e k ∧ left = bs.drop k := by
    obtain ⟨less, rfl, rfl⟩ := take_eq_error.mp ((op.run_fixed_eq_error size).mp failed)
    exact ⟨0, .short size less, rfl⟩
  cases op with
  | take n => exact fixed rfl
  | octet | uint16 | uint32 => exact fixed rfl
  | varInt =>
    obtain ⟨fault, rfl⟩ := varInt_eq_error.mp (map_eq_error.mp failed)
    exact ⟨0, .uncounted fault, rfl⟩
  | binary => exact Halts.of_field (.inl rfl) (map_eq_error.mp failed)
  | text =>
    rcases text_eq_error.mp (map_eq_error.mp failed) with field | ⟨n, body, joined, size, bad, rfl⟩
    · exact Halts.of_field (.inr rfl) field
    · refine ⟨2 + n.toNat, .garbled joined size bad, ?_⟩
      rw [joined, ← List.drop_drop, ← size]
      exact List.drop_left.symm
  | properties =>
    rcases readBlock_eq_error.mp (map_eq_error.mp failed) with
      ⟨fault, rfl⟩ | ⟨n, size, announced, ⟨less, rfl, rfl⟩ | ⟨whole, fault, rfl⟩⟩
    · exact ⟨0, .unannounced fault, rfl⟩
    · exact ⟨size, .cutBlock announced less, rfl⟩
    · exact ⟨size + n, .badProperty announced whole fault, rfl⟩
  | rest => cases failed

theorem Halts.run_eq (h : Halts bs op e k) : op.run bs = (.error e, bs.drop k) := by
  have field {e : WireError} {left : Bytes} (which : op = .binary ∨ op = .text)
      (failed : Read.binary bs = (.error e, left)) : op.run bs = (.error e, left) := by
    rcases which with rfl | rfl
    · exact map_eq_error.mpr failed
    · exact map_eq_error.mpr (text_eq_error.mpr (.inl failed))
  cases h with
  | short fixed less => exact (op.run_fixed_eq_error fixed).mpr (take_eq_error.mpr ⟨less, rfl, rfl⟩)
  | uncounted fault => exact map_eq_error.mpr (varInt_eq_error.mpr ⟨fault, rfl⟩)
  | unmeasured which less => exact field which (binary_eq_error.mpr (.inl ⟨less, rfl, rfl⟩))
  | @cutField _ n body which joined less =>
    have behind : bs.drop 2 = body := by rw [joined]; rfl
    rw [behind]
    exact field which (binary_eq_error.mpr (.inr ⟨n, joined, less, rfl⟩))
  | @garbled n body more joined size bad =>
    have behind : bs.drop (2 + n.toNat) = more := by
      rw [joined, ← List.drop_drop, ← size]
      exact List.drop_left
    rw [behind]
    exact map_eq_error.mpr (text_eq_error.mpr (.inr ⟨n, body, joined, size, bad, rfl⟩))
  | unannounced fault =>
    exact map_eq_error.mpr (readBlock_eq_error.mpr (.inl ⟨fault, rfl⟩))
  | cutBlock announced less =>
    exact map_eq_error.mpr
      (readBlock_eq_error.mpr (.inr ⟨_, _, announced, .inl ⟨less, rfl, rfl⟩⟩))
  | badProperty announced whole fault =>
    exact map_eq_error.mpr
      (readBlock_eq_error.mpr (.inr ⟨_, _, announced, .inr ⟨whole, fault, rfl⟩⟩))

/-- An operation that fails does not move past the octets that there are. -/
theorem Halts.le_length (h : Halts bs op e k) : k ≤ bs.length := by
  cases h with
  | short | uncounted | unmeasured | unannounced => exact Nat.zero_le _
  | cutField _ joined _ =>
    rw [joined]
    exact Nat.le_add_left 2 _
  | garbled joined size _ =>
    rw [joined, ← size, List.length_append, List.length_append, Bytes.ofUInt16]
    simp only [List.length_cons, List.length_nil]
    omega
  | cutBlock announced _ => exact (VarInt.decode_size announced).2
  | badProperty announced whole _ =>
    have := (VarInt.decode_size announced).2
    rw [List.length_drop] at whole
    omega

theorem Operation.run_eq_error :
    op.run bs = (.error e, left) ↔ ∃ k, Halts bs op e k ∧ left = bs.drop k := by
  refine ⟨Halts.exists_of_run, ?_⟩
  rintro ⟨k, halts, rfl⟩
  exact halts.run_eq

end Failures

end Read

namespace Seek

/-- One operation of a sequence: from where to where it went, and what it found. -/
structure Step where
  operation : Operation
  before : Nat
  found : Except WireError Found
  after : Nat

/-- Operations one after the other. One that fails does not stop those after it. -/
def steps (data : Bytes) : List Operation → (place : Nat) → Option (List Step)
  | [], _ => some []
  | op :: ops, place =>
    match operation op data place with
    | some (found, next) => (steps data ops next).map (⟨op, place, found, next⟩ :: ·)
    | none => none

namespace Step

/-- What a step tells without its place: what is found, and how far it moves. -/
def told (s : Step) : Operation × Except WireError Found × Nat :=
  (s.operation, s.found, s.after - s.before)

/-- A step goes forward within the data, reads the octets that are unread and no others, and fails
as these say. -/
structure Orderly (data : Bytes) (s : Step) : Prop where
  forward : s.before ≤ s.after
  within : s.after ≤ data.length
  reads : s.operation.run (data.drop s.before) = (s.found, data.drop s.after)
  halts : ∀ e k, Read.Halts (data.drop s.before) s.operation e k ↔
    s.found = .error e ∧ s.after = s.before + k

end Step

section Run

variable {data other : Bytes} {place otherPlace next : Nat} {op : Operation}
  {found : Except WireError Found}

theorem drop_eq_drop {m n : Nat} (hm : m ≤ data.length) (hn : n ≤ data.length) :
    data.drop m = data.drop n ↔ m = n := by
  refine ⟨fun same => ?_, fun same => by rw [same]⟩
  have lengths := congrArg List.length same
  rw [List.length_drop, List.length_drop] at lengths
  omega

theorem orderly_operation (op : Operation) (within : place ≤ data.length) :
    ∃ found next, operation op data place = some (found, next) ∧
      (Step.mk op place found next).Orderly data := by
  obtain ⟨found, next, sought, forward, within', read⟩ := follows_operation op data place within
  refine ⟨found, next, sought, forward, within', read, fun e k => ?_⟩
  dsimp only
  constructor
  · intro halts
    have short := halts.le_length
    have run := halts.run_eq
    rw [List.length_drop] at short
    rw [read, List.drop_drop, Prod.mk.injEq, drop_eq_drop within' (by omega)] at run
    exact run
  · rintro ⟨rfl, rfl⟩
    obtain ⟨j, halts, left⟩ := Read.Operation.run_eq_error.mp read
    have short := halts.le_length
    rw [List.length_drop] at short
    rw [List.drop_drop, drop_eq_drop within' (by omega)] at left
    rwa [Nat.add_left_cancel left]

/-- What an operation finds and how far it moves is the same wherever the same octets are unread. -/
theorem operation_congr (op : Operation) (within : place ≤ data.length)
    (within' : otherPlace ≤ other.length) (same : data.drop place = other.drop otherPlace) :
    ∃ found k, operation op data place = some (found, place + k) ∧
      operation op other otherPlace = some (found, otherPlace + k) ∧
      place + k ≤ data.length ∧ otherPlace + k ≤ other.length ∧
      data.drop (place + k) = other.drop (otherPlace + k) := by
  obtain ⟨found, next, sought, forward, inside, read⟩ := follows_operation op data place within
  obtain ⟨found', next', sought', forward', inside', read'⟩ :=
    follows_operation op other otherPlace within'
  rw [same, read', Prod.mk.injEq] at read
  obtain ⟨rfl, left⟩ := read
  have unread := congrArg List.length same
  have lengths := congrArg List.length left
  simp only [List.length_drop] at unread lengths
  have moved : next = place + (next' - otherPlace) := by omega
  have moved' : next' = otherPlace + (next' - otherPlace) := by omega
  refine ⟨found', next' - otherPlace, ?_, ?_, by omega, by omega, ?_⟩
  · rw [sought, ← moved]
  · rw [sought', ← moved']
  · rw [← moved, ← moved', left]

theorem steps_cons {ops : List Operation} (sought : operation op data place = some (found, next)) :
    steps data (op :: ops) place = (steps data ops next).map (⟨op, place, found, next⟩ :: ·) := by
  rw [steps, sought]

/-- A sequence of operations is never stopped, each of them begins where the last one ended, and
each is orderly. -/
theorem exists_steps (ops : List Operation) (within : place ≤ data.length) :
    ∃ run, steps data ops place = some run ∧ run.map Step.operation = ops ∧
      run.map Step.before = (place :: run.map Step.after).dropLast ∧
      (place :: run.map Step.after).Pairwise (· ≤ ·) ∧ ∀ s ∈ run, s.Orderly data := by
  induction ops generalizing place with
  | nil => exact ⟨[], rfl, rfl, rfl, List.pairwise_singleton _ _, fun _ => nofun⟩
  | cons op ops ih =>
    obtain ⟨found, next, sought, orderly⟩ := orderly_operation op within
    obtain ⟨run, stepped, operations, linked, rising, each⟩ := ih orderly.within
    refine ⟨⟨op, place, found, next⟩ :: run, ?_, ?_, ?_, ?_, ?_⟩
    · rw [steps_cons sought, stepped]
      rfl
    · exact congrArg (op :: ·) operations
    · exact congrArg (place :: ·) linked
    · refine List.pairwise_cons.mpr ⟨fun later member => ?_, rising⟩
      have forward : place ≤ next := orderly.forward
      rcases List.mem_cons.mp member with rfl | further
      · exact forward
      · exact Nat.le_trans forward (List.rel_of_pairwise_cons rising further)
    · exact List.forall_mem_cons.mpr ⟨orderly, each⟩

theorem map_told_cons (s : Step) (run : Option (List Step)) :
    (run.map (s :: ·)).map (List.map Step.told) =
      (run.map (List.map Step.told)).map (s.told :: ·) := by
  cases run <;> rfl

theorem steps_told (ops : List Operation) (within : place ≤ data.length)
    (within' : otherPlace ≤ other.length) (same : data.drop place = other.drop otherPlace) :
    (steps data ops place).map (List.map Step.told) =
      (steps other ops otherPlace).map (List.map Step.told) := by
  induction ops generalizing place otherPlace with
  | nil => rfl
  | cons op ops ih =>
    obtain ⟨found, k, sought, sought', inside, inside', same'⟩ :=
      operation_congr op within within' same
    have told (place : Nat) : Step.told ⟨op, place, found, place + k⟩ = (op, found, k) := by
      rw [Step.told, Nat.add_sub_cancel_left]
    rw [steps_cons sought, steps_cons sought', map_told_cons, map_told_cons, told, told,
      ih inside inside' same']

end Run

/-- The place of a reader, over any operations on any data and whatever of them fails. No operation
is stopped behind the end, so none that counts the unread octets goes below zero. Each begins where
the last one ended, none goes back, and a failing one moves exactly as `Halts` says: not at all,
over a length, or over the length and all that it announces. What is found and how far it moves is
the same wherever the same octets are unread. -/
theorem places_disciplined (ops : List Operation) (data : Bytes) :
    (∃ run, steps data ops 0 = some run ∧ run.map Step.operation = ops ∧
      run.map Step.before = (0 :: run.map Step.after).dropLast ∧
      (0 :: run.map Step.after).Pairwise (· ≤ ·) ∧ ∀ s ∈ run, s.Orderly data) ∧
    ∀ (place : Nat) (other : Bytes) (otherPlace : Nat), place ≤ data.length →
      otherPlace ≤ other.length → data.drop place = other.drop otherPlace →
      (steps data ops place).map (List.map Step.told) =
        (steps other ops otherPlace).map (List.map Step.told) :=
  ⟨exists_steps ops (Nat.zero_le _), fun _ _ _ within within' same =>
    steps_told ops within within' same⟩

/-- A text that is no UTF-8, a number that is too long for what is left, and a block that is cut
off; and the two last once more, in other data. -/
theorem places_disciplined_garbled :
    let data : Bytes := [0x00, 0x02, 0xC3, 0x28, 0x05, 0x21, 0x00]
    let text : Step := ⟨.text, 0, .error .invalidUtf8, 4⟩
    let number : Step := ⟨.uint32, 4, .error (.truncated 4 3), 4⟩
    let block : Step := ⟨.properties, 4, .error (.truncated 5 2), 5⟩
    steps data [.text, .uint32, .properties] 0 = some [text, number, block] ∧
    text.Orderly data ∧ Read.Halts data .text .invalidUtf8 4 ∧
    4 ≤ data.length ∧ 0 ≤ [0x05, 0x21, (0x00 : UInt8)].length ∧
    (steps [0x05, 0x21, 0x00] [.uint32, .properties] 0).map (List.map Step.told) =
      some [number.told, block.told] := by
  intro data text number block
  have later : steps data [.uint32, .properties] 4 = some [number, block] := rfl
  have bad : Utf8.decode? [0xC3, 0x28] = none := by decide +kernel
  have garbled : Read.Halts data .text .invalidUtf8 4 := .garbled (n := 2) rfl rfl bad
  have run : steps data [.text, .uint32, .properties] 0 = some [text, number, block] := by
    obtain ⟨found, next, sought, orderly⟩ := orderly_operation .text data.length.zero_le
    obtain ⟨failed, moved⟩ : found = .error .invalidUtf8 ∧ next = 4 :=
      (orderly.halts _ _).mp garbled
    rw [steps_cons sought, failed, moved, later]
    rfl
  obtain ⟨found, stepped, _, _, _, each⟩ :=
    (places_disciplined [.text, .uint32, .properties] data).1
  cases run.symm.trans stepped
  have orderly := each text List.mem_cons_self
  have again := (places_disciplined [.uint32, .properties] data).2 4 [0x05, 0x21, 0x00] 0
    (by decide) (by decide) rfl
  rw [later] at again
  exact ⟨run, orderly, (orderly.halts _ _).mpr ⟨rfl, rfl⟩, by decide, by decide, again.symm⟩

end Seek

end ReloadProbe.Wire
