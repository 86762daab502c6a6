import ReloadProbe.Proofs.Broker.Ports

/-!
Ports for one run after another. All calls together ask for one port after the other without a gap,
from the base on, and what they give are the ports that were free when they were asked for. A call
that fails has come to the end, and so do all that follow it.
-/
namespace ReloadProbe.Ports

open Interaction

/-- A call for a port: what it asked, and what it came to. -/
structure Served where
  asked : List (Event probing)
  result : Except Failure UInt16

/-- Calls one after another. -/
inductive Serves : Ports → List Served → Ports → Prop where
  | none (ports : Ports) : Serves ports [] ports
  | call {ports mid ports' : Ports} {asked : List (Event probing)} {r : Except Failure UInt16}
      {calls : List Served} (run : Runs ports.allocate asked (r, mid))
      (later : Serves mid calls ports') : Serves ports (⟨asked, r⟩ :: calls) ports'

/-- What all the calls asked. -/
def askedBy (calls : List Served) : List (Event probing) := calls.flatMap Served.asked

/-- The ports that were given, in order. -/
def given (calls : List Served) : List UInt16 := calls.filterMap fun call => call.result.toOption

/-- The port that a question is about. -/
def port (e : Event probing) : UInt16 := e.call

def isFree (e : Event probing) : Bool := e.reply

variable {base : UInt16} {ports mid ports' : Ports} {asked : List (Event probing)}
  {r : Except Failure UInt16} {calls before after : List Served} {got : UInt16}

/-! One call. -/

theorem toNat_port_next (left : ports.next < 65536) (free : Bool) :
    (port ⟨UInt16.ofNat ports.next, free⟩).toNat = ports.next := UInt16.toNat_ofNat_of_lt' left

theorem Allocates.bounds (search : Allocates ports asked r ports') (within : ports.next ≤ 65536) :
    ports'.base = ports.base ∧ ports.next ≤ ports'.next ∧ ports'.next ≤ 65536 := by
  induction search with
  | exhausted => exact ⟨rfl, Nat.le_refl _, within⟩
  | free left => exact ⟨rfl, Nat.le_succ _, left⟩
  | bound left later ih =>
    obtain ⟨same, up, small⟩ := ih left
    exact ⟨same, Nat.le_trans (Nat.le_succ _) up, small⟩

/-- The ports from the next one on are asked for, one by one. -/
theorem Allocates.swept (search : Allocates ports asked r ports') (within : ports.next ≤ 65536) :
    asked.map (fun e => (port e).toNat) = List.range' ports.next (ports'.next - ports.next) := by
  induction search with
  | exhausted => simp
  | free left => simp [toNat_port_next left]
  | @bound ports ports' asked r left later ih =>
    obtain ⟨_, up, _⟩ := later.bounds left
    dsimp only at up
    have count : ports'.next - ports.next = ports'.next - (ports.next + 1) + 1 := by omega
    rw [List.map_cons, toNat_port_next left, ih left, count, List.range'_succ]

theorem mem_of_swept {events : List (Event probing)} {first count : Nat}
    (swept : events.map (fun e => (port e).toNat) = List.range' first count) (q : UInt16) :
    (∃ e ∈ events, port e = q) ↔ first ≤ q.toNat ∧ q.toNat < first + count := by
  rw [← List.mem_range'_1, ← swept]
  simp only [List.mem_map, UInt16.toNat_inj]

theorem increasing_of_swept {events : List (Event probing)} {first count : Nat}
    (swept : events.map (fun e => (port e).toNat) = List.range' first count) :
    (events.map port).Pairwise (· < ·) := by
  have numbers : ((events.map port).map UInt16.toNat).Pairwise (· < ·) := by
    rw [List.map_map]
    exact swept ▸ List.pairwise_lt_range'
  exact numbers.of_map _ fun _ _ => UInt16.lt_iff_toNat_lt.mpr

theorem nodup_of_swept {events : List (Event probing)} {first count : Nat}
    (swept : events.map (fun e => (port e).toNat) = List.range' first count) :
    (events.map port).Nodup := (increasing_of_swept swept).imp UInt16.ne_of_lt

theorem eq_bound {e : Event probing} {q : UInt16} (about : port e = q) (bound : isFree e = false) :
    e = ⟨q, false⟩ := by
  obtain ⟨p, free⟩ := e
  obtain rfl : p = q := about
  obtain rfl : free = false := bound
  rfl

/-- The port that was free ends the search. -/
theorem Allocates.found (search : Allocates ports asked (.ok got) ports') :
    ∃ bound, asked = bound ++ [⟨got, true⟩] ∧ ∀ e ∈ bound, isFree e = false := by
  generalize gave : (.ok got : Except Failure UInt16) = r at search
  induction search with
  | exhausted => cases gave
  | free =>
    cases gave
    exact ⟨[], rfl, fun _ => nofun⟩
  | bound left later ih =>
    obtain ⟨bound, rfl, all⟩ := ih gave
    exact ⟨_ :: bound, rfl, List.forall_mem_cons.mpr ⟨rfl, all⟩⟩

theorem Allocates.failed {e : Failure} (search : Allocates ports asked (.error e) ports')
    (within : ports.next ≤ 65536) : e = .portsExhausted ports.base ∧ ports'.next = 65536 := by
  generalize failed : (.error e : Except Failure UInt16) = r at search
  induction search with
  | exhausted all =>
    cases failed
    exact ⟨rfl, Nat.le_antisymm within all⟩
  | free => cases failed
  | bound left later ih => exact ih left failed

/-- What a call gives is what was free of all that it asked for. -/
theorem Allocates.free_eq (search : Allocates ports asked r ports') :
    (asked.filter isFree).map port = r.toOption.toList := by
  cases r with
  | ok got =>
    obtain ⟨bound, rfl, all⟩ := search.found
    have before : bound.filter isFree = [] := List.filter_eq_nil_iff.mpr (by simpa using all)
    rw [List.filter_append, before]
    rfl
  | error e =>
    have unfound : asked.filter isFree = [] :=
      List.filter_eq_nil_iff.mpr fun e member => Bool.not_eq_true _ ▸ search.all_bound e member
    rw [unfound]
    rfl

/-- At the end nothing is asked. -/
theorem Allocates.spent (search : Allocates ports asked r ports') (ended : ports.next = 65536) :
    asked = [] ∧ r = .error (.portsExhausted ports.base) ∧ ports' = ports := by
  cases search with
  | exhausted => exact ⟨rfl, rfl, rfl⟩
  | free left => omega
  | bound left => omega

theorem Allocates.runs (search : Allocates ports asked r ports') :
    Runs ports.allocate asked (r, ports') := by
  induction search with
  | exhausted all =>
    rw [allocate, if_neg (Nat.not_lt.mpr all)]
    exact .done _
  | free left =>
    rw [allocate, if_pos left]
    exact .ask (.done _)
  | bound left later ih =>
    rw [allocate, if_pos left]
    exact .ask ih

/-! All calls. -/

theorem Serves.bounds (serves : Serves ports calls ports') (within : ports.next ≤ 65536) :
    ports'.base = ports.base ∧ ports.next ≤ ports'.next ∧ ports'.next ≤ 65536 := by
  induction serves with
  | none => exact ⟨rfl, Nat.le_refl _, within⟩
  | call run later ih =>
    obtain ⟨same, up, small⟩ := (runs_allocate run).bounds within
    obtain ⟨same', up', small'⟩ := ih small
    exact ⟨same'.trans same, Nat.le_trans up up', small'⟩

theorem Serves.swept (serves : Serves ports calls ports') (within : ports.next ≤ 65536) :
    (askedBy calls).map (fun e => (port e).toNat) =
      List.range' ports.next (ports'.next - ports.next) := by
  induction serves with
  | none => simp [askedBy]
  | @call ports mid ports' asked r calls run later ih =>
    obtain ⟨_, up, small⟩ := (runs_allocate run).bounds within
    obtain ⟨_, up', _⟩ := later.bounds small
    have count : ports'.next - ports.next = (mid.next - ports.next) + (ports'.next - mid.next) := by
      omega
    have start : mid.next = ports.next + 1 * (mid.next - ports.next) := by omega
    rw [count, ← List.range'_append, ← start, ← ih small, ← (runs_allocate run).swept within,
      ← List.map_append]
    rfl

theorem Serves.given_eq (serves : Serves ports calls ports') :
    given calls = ((askedBy calls).filter isFree).map port := by
  induction serves with
  | none => rfl
  | @call ports mid ports' asked r calls run later ih =>
    have first := (runs_allocate run).free_eq
    show given (⟨asked, r⟩ :: calls) = ((asked ++ askedBy calls).filter isFree).map port
    rw [List.filter_append, List.map_append, first, ← ih]
    cases r <;> rfl

/-- The ports that are given are some of those asked for, in the same order. -/
theorem Serves.given_sublist (serves : Serves ports calls ports') :
    (given calls).Sublist ((askedBy calls).map port) := by
  rw [serves.given_eq]
  exact List.filter_sublist.map port

theorem Serves.split (serves : Serves ports (before ++ after) ports') :
    ∃ mid, Serves ports before mid ∧ Serves mid after ports' := by
  induction before generalizing ports with
  | nil => exact ⟨ports, .none ports, serves⟩
  | cons first before ih =>
    cases serves with
    | call run later =>
      obtain ⟨mid, front, back⟩ := ih later
      exact ⟨mid, .call run front, back⟩

/-- After the last port every call fails, and asks nothing. -/
theorem Serves.spent (serves : Serves ports calls ports') (ended : ports.next = 65536) :
    ∀ call ∈ calls, call = ⟨[], .error (.portsExhausted ports.base)⟩ := by
  induction serves with
  | none => exact fun _ => nofun
  | call run later ih =>
    obtain ⟨rfl, rfl, rfl⟩ := (runs_allocate run).spent ended
    exact List.forall_mem_cons.mpr ⟨rfl, ih ended⟩

theorem new_next_le (base : UInt16) : (new base).next ≤ 65536 :=
  Nat.le_of_lt (UInt16.toNat_lt (new base).base)

theorem new_base (base : UInt16) : (new base).base = max base 1 := by
  unfold new
  dsimp only
  split
  · rename_i zero
    rw [zero]
    rfl
  · rename_i nonzero
    show base = if base ≤ 1 then 1 else base
    split
    · rename_i small
      have small : base.toNat ≤ 1 := UInt16.le_iff_toNat_le.mp small
      have above : base.toNat ≠ 0 := fun zero => nonzero (UInt16.toNat_inj.mp zero)
      exact UInt16.toNat_inj.mp (Nat.le_antisymm small (Nat.pos_of_ne_zero above))
    · rfl

/-- What a call comes to where the ports were `mid`. A port that it gives was free, and all ports
between those asked for before and that one were bound. It fails if and only if none is left, and
then so do the calls after it. -/
structure Orderly (base : UInt16) (before : List Served) (mid : Ports) (call : Served)
    (after : List Served) : Prop where
  free : ∀ p, call.result = .ok p → ⟨p, true⟩ ∈ call.asked
  between : ∀ p q, call.result = .ok p → max base 1 ≤ q → (∀ e ∈ askedBy before, port e < q) →
    q < p → ⟨q, false⟩ ∈ call.asked
  exhausted : call.result = .error (.portsExhausted (max base 1)) ↔
    65535 < mid.next ∨ ∀ q : UInt16, mid.next ≤ q.toNat → ⟨q, false⟩ ∈ call.asked
  lasting : ∀ e, call.result = .error e →
    e = .portsExhausted (max base 1) ∧ ∀ later ∈ after, later = ⟨[], call.result⟩

/-- What was not asked for before is not below the next port. -/
theorem Serves.next_le (front : Serves (new base) before mid) {q : UInt16}
    (above : max base 1 ≤ q) (beyond : ∀ e ∈ askedBy before, port e < q) : mid.next ≤ q.toNat := by
  have within := new_next_le base
  have above : (new base).next ≤ q.toNat := by
    rw [← new_base] at above
    exact UInt16.le_iff_toNat_le.mp above
  refine Nat.le_of_not_lt fun below => ?_
  obtain ⟨e, member, about⟩ := (mem_of_swept (front.swept within) q).mpr ⟨above, by omega⟩
  have less := UInt16.lt_iff_toNat_lt.mp (beyond e member)
  rw [about] at less
  exact Nat.lt_irrefl _ less

theorem Serves.orderly {call : Served} (front : Serves (new base) before mid)
    (serves : Serves mid (call :: after) ports') : Orderly base before mid call after := by
  obtain ⟨same, _, within⟩ := front.bounds (new_next_le base)
  rw [new_base] at same
  cases serves with
  | @call _ next _ asked r _ run later =>
    have search := runs_allocate run
    have swept := search.swept within
    obtain ⟨same', up, within'⟩ := search.bounds within
    refine ⟨?_, ?_, ⟨?_, ?_⟩, ?_⟩
    · rintro p rfl
      obtain ⟨bound, rfl, _⟩ := search.found
      exact List.mem_append_right _ List.mem_cons_self
    · rintro p q rfl above beyond less
      have less := UInt16.lt_iff_toNat_lt.mp less
      have from_next := front.next_le above beyond
      obtain ⟨bound, rfl, all⟩ := search.found
      have upper := ((mem_of_swept swept p).mp ⟨⟨p, true⟩, by simp, rfl⟩).2
      -- The call swept over `q`, and only the port that it gives was free.
      obtain ⟨e, member, about⟩ := (mem_of_swept swept q).mpr ⟨from_next, by omega⟩
      rcases List.mem_append.mp member with earlier | last
      · rw [← eq_bound about (all e earlier)]
        exact member
      · obtain rfl := List.mem_singleton.mp last
        obtain rfl : p = q := about
        exact absurd less (Nat.lt_irrefl _)
    · rintro rfl
      have ended := (search.failed within).2
      refine .inr fun q above => ?_
      have below := q.toNat_lt
      obtain ⟨e, member, about⟩ := (mem_of_swept swept q).mpr ⟨above, by omega⟩
      rw [← eq_bound about (search.all_bound e member)]
      exact member
    · intro lacking
      cases r with
      | error e => rw [(search.failed within).1, same]
      | ok p =>
        obtain ⟨bound, rfl, all⟩ := search.found
        obtain ⟨lower, upper⟩ := (mem_of_swept swept p).mp ⟨⟨p, true⟩, by simp, rfl⟩
        rcases lacking with past | taken
        · omega
        · -- The port would have been asked for twice.
          have once := nodup_of_swept swept
          rw [List.map_append, List.nodup_append] at once
          rcases List.mem_append.mp (taken p lower) with earlier | last
          · exact absurd rfl (once.2.2 p (List.mem_map.mpr ⟨_, earlier, rfl⟩) p List.mem_cons_self)
          · cases List.mem_singleton.mp last
    · rintro e rfl
      obtain ⟨rfl, ended⟩ := search.failed within
      refine ⟨by rw [same], fun call member => ?_⟩
      rw [later.spent ended call member, same']

/-- Every call ends, whatever is answered. The ports that calls give go up from the base on, and no
port is asked for twice; each call takes the first port that is free of those that were not asked
for yet, and if none is left all calls fail from then on. -/
theorem allocate_fresh (base : UInt16) :
    (∀ (ports : Ports) {σ : Type} (world : (c : probing.Call) → σ → probing.Reply c × σ)
      (state : σ), ∃ asked given, (ports.allocate.run world state).1 = .ok given ∧
        Runs ports.allocate asked given) ∧
    ∀ calls ports', Serves (new base) calls ports' →
      (given calls).Pairwise (· < ·) ∧
      (∀ p ∈ given calls, max base 1 ≤ p) ∧
      ((askedBy calls).map port).Nodup ∧
      ports'.next ≤ 65536 ∧
      ∀ before call after, calls = before ++ call :: after →
        ∃ mid, Serves (new base) before mid ∧ Orderly base before mid call after := by
  refine ⟨fun ports _ world state => exists_runs ports.allocate_safe world state, ?_⟩
  intro calls ports' serves
  have within := new_next_le base
  have swept := serves.swept within
  refine ⟨?_, ?_, nodup_of_swept swept, (serves.bounds within).2.2, ?_⟩
  · exact (increasing_of_swept swept).sublist serves.given_sublist
  · intro p member
    obtain ⟨e, asked, about⟩ := List.mem_map.mp (serves.given_sublist.mem member)
    have lower := ((mem_of_swept swept p).mp ⟨e, asked, about⟩).1
    rw [← new_base]
    exact UInt16.le_iff_toNat_le.mpr lower
  · rintro before call after rfl
    obtain ⟨mid, front, back⟩ := serves.split
    exact ⟨mid, front, front.orderly back⟩

/-- A call that gets the last port, and one after it. -/
def lastCalls : List Served :=
  [⟨[⟨(65534 : UInt16), false⟩, ⟨(65535 : UInt16), true⟩], .ok 65535⟩,
    ⟨[], .error (.portsExhausted 65534)⟩]

theorem serves_lastCalls : Serves (new 65534) lastCalls ⟨65534, 65536⟩ := by
  have first : Allocates (new 65534) [⟨(65534 : UInt16), false⟩, ⟨(65535 : UInt16), true⟩]
      (.ok 65535) ⟨65534, 65536⟩ := .bound (by decide) (.free (by decide))
  have second : Allocates ⟨65534, 65536⟩ [] (.error (.portsExhausted 65534)) ⟨65534, 65536⟩ :=
    .exhausted (by decide)
  exact .call first.runs (.call second.runs (.none _))

theorem allocate_fresh_last :
    Serves (new 65534) lastCalls ⟨65534, 65536⟩ ∧ given lastCalls = [65535] ∧
      (given lastCalls).Pairwise (· < ·) ∧ ((askedBy lastCalls).map port).Nodup ∧
      ∃ mid, Orderly 65534 (lastCalls.take 1) mid ⟨[], .error (.portsExhausted 65534)⟩ [] := by
  obtain ⟨rising, _, once, _, each⟩ := (allocate_fresh 65534).2 lastCalls _ serves_lastCalls
  obtain ⟨mid, _, orderly⟩ := each (lastCalls.take 1) _ [] rfl
  exact ⟨serves_lastCalls, rfl, rising, once, mid, orderly⟩

end ReloadProbe.Ports
