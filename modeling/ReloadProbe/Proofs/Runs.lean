import ReloadProbe.Interaction
import ReloadProbe.Proofs.Fallible

/-!
Runs taken apart: what the events of a call, of two programs in sequence and of a program on a
larger interface are made of. A world gives every program a run, with its own replies.
-/
namespace ReloadProbe.Interaction

variable {I J : Interface} {α β σ : Type}

instance : LawfulMonad (Interaction I) := .mk' _
  (fun p => by
    induction p with
    | done | crash => rfl
    | ask call next ih => exact congrArg (ask call) (funext ih))
  (fun _ _ => rfl)
  (fun p f g => by
    induction p with
    | done | crash => rfl
    | ask call next ih => exact congrArg (ask call) (funext ih))

@[simp] theorem runs_pure {a b : α} {events : List (Event I)} :
    Runs (pure a : Interaction I α) events b ↔ events = [] ∧ b = a := by
  constructor
  · intro h
    cases h
    exact ⟨rfl, rfl⟩
  · rintro ⟨rfl, rfl⟩
    exact .done b

@[simp] theorem runs_done {a b : α} {events : List (Event I)} :
    Runs (done a : Interaction I α) events b ↔ events = [] ∧ b = a := runs_pure

theorem runs_ask {call : I.Call} {next : I.Reply call → Interaction I α}
    {events : List (Event I)} {a : α} :
    Runs (ask call next) events a ↔
      ∃ reply later, events = ⟨call, reply⟩ :: later ∧ Runs (next reply) later a := by
  constructor
  · intro h
    cases h with
    | ask h => exact ⟨_, _, rfl, h⟩
  · rintro ⟨reply, later, rfl, h⟩
    exact .ask h

theorem runs_call {call : I.Call} {events : List (Event I)} {reply : I.Reply call} :
    Runs (ask call done) events reply ↔ events = [⟨call, reply⟩] := by
  constructor
  · intro h
    obtain ⟨given, later, rfl, rest⟩ := runs_ask.mp h
    obtain ⟨rfl, rfl⟩ := runs_done.mp rest
    rfl
  · rintro rfl
    exact .ask (.done reply)

theorem runs_seq {p : Interaction I α} {f : α → Interaction I β} {events : List (Event I)}
    {b : β} :
    Runs (p >>= f) events b ↔
      ∃ before after a, events = before ++ after ∧ Runs p before a ∧ Runs (f a) after b :=
  runs_bind_iff

theorem runs_reply {call : I.Call} {f : I.Reply call → Interaction I β} {events : List (Event I)}
    {b : β} :
    Runs (ask call done >>= f) events b ↔
      ∃ reply later, events = ⟨call, reply⟩ :: later ∧ Runs (f reply) later b := runs_ask

theorem runs_map {p : Interaction I α} {f : α → β} {events : List (Event I)} {b : β} :
    Runs (f <$> p) events b ↔ ∃ a, Runs p events a ∧ b = f a := by
  constructor
  · intro h
    obtain ⟨before, after, a, rfl, hp, hf⟩ := runs_bind_iff.mp h
    obtain ⟨rfl, rfl⟩ := runs_done.mp hf
    exact ⟨a, by simpa using hp, rfl⟩
  · rintro ⟨a, hp, rfl⟩
    have hf : Runs (done (f a) : Interaction I β) [] (f a) := .done (f a)
    exact runs_bind_iff.mpr ⟨events, [], a, (List.append_nil events).symm, hp, hf⟩

/-- The events of an embedded program are its own, each seen as one of the larger interface. -/
theorem runs_embed {f : I.Call → J.Call} {g : (c : I.Call) → J.Reply (f c) → I.Reply c}
    {lift : Event I → Event J} (lifts : ∀ c reply, lift ⟨c, g c reply⟩ = ⟨f c, reply⟩)
    {p : Interaction I α} {events : List (Event J)} {a : α} (h : Runs (p.embed f g) events a) :
    ∃ own, events = own.map lift ∧ Runs p own a := by
  induction p generalizing events with
  | done b =>
    obtain ⟨rfl, rfl⟩ := runs_done.mp h
    exact ⟨[], rfl, .done a⟩
  | ask c next ih =>
    obtain ⟨reply, later, rfl, rest⟩ := runs_ask.mp h
    obtain ⟨own, rfl, hp⟩ := ih (g c reply) rest
    exact ⟨⟨c, g c reply⟩ :: own, by rw [List.map_cons, lifts], .ask hp⟩
  | crash reason => cases h

/-- What is dropped in a crash makes no difference to what is done without one. -/
@[simp] theorem runs_unwinding {p : Interaction I α} {drop : Interaction I Unit}
    {events : List (Event I)} {a : α} :
    Runs (p.unwinding drop) events a ↔ Runs p events a := by
  induction p generalizing events with
  | done b => exact Iff.rfl
  | ask call next ih =>
    rw [unwinding, runs_ask, runs_ask]
    simp only [ih]
  | crash reason =>
    refine ⟨fun h => ?_, fun h => nomatch h⟩
    obtain ⟨_, _, _, _, _, crashed⟩ := runs_bind_iff.mp h
    cases crashed

theorem unwinding_map (f : α → β) (p : Interaction I α) (drop : Interaction I Unit) :
    (f <$> p).unwinding drop = f <$> p.unwinding drop := by
  induction p with
  | done => rfl
  | ask call next ih => exact congrArg (ask call) (funext ih)
  | crash reason =>
    show (drop >>= fun _ => crash reason) = f <$> (drop >>= fun _ => crash reason)
    rw [map_bind]
    rfl

/-- The calls that a program makes in a world, with their replies. -/
def trace (world : (c : I.Call) → σ → I.Reply c × σ) : Interaction I α → σ → List (Event I)
  | done _, _ | crash _, _ => []
  | ask c next, s => ⟨c, (world c s).1⟩ :: (next (world c s).1).trace world (world c s).2

theorem runs_trace {world : (c : I.Call) → σ → I.Reply c × σ} {p : Interaction I α} {s : σ} {a : α}
    (h : (p.run world s).1 = .ok a) : Runs p (p.trace world s) a := by
  induction p generalizing s with
  | done b =>
    cases h
    exact .done a
  | ask c next ih => exact .ask (ih _ h)
  | crash reason => cases h

theorem runs_ended (world : (c : I.Call) → σ → I.Reply c × σ) (p : Interaction I α) (s : σ)
    (ended : (p.run world s).1.toOption.isSome) :
    Runs p (p.trace world s) ((p.run world s).1.toOption.get ended) :=
  runs_trace (Except.eq_ok_get ended)

theorem crashes_trace {world : (c : I.Call) → σ → I.Reply c × σ} {p : Interaction I α} {s : σ}
    {reason : String} (h : (p.run world s).1 = .error reason) :
    Crashes p (p.trace world s) reason := by
  induction p generalizing s with
  | done b => cases h
  | ask c next ih => exact .ask (ih _ h)
  | crash =>
    cases h
    exact .crash reason

/-- A program that cannot crash, whatever is replied to it. -/
def Safe (p : Interaction I α) : Prop :=
  ∀ events reason, ¬ Crashes p events reason

theorem exists_runs {p : Interaction I α} (safe : p.Safe)
    (world : (c : I.Call) → σ → I.Reply c × σ) (s : σ) :
    ∃ events a, (p.run world s).1 = .ok a ∧ Runs p events a := by
  cases ended : (p.run world s).1 with
  | ok a => exact ⟨_, a, rfl, runs_trace ended⟩
  | error reason => exact absurd (crashes_trace ended) (safe _ _)

/-- What holds of every reply of a world holds of all events of a run in it. -/
theorem forall_mem_trace {world : (c : I.Call) → σ → I.Reply c × σ} {P : Event I → Prop}
    (replies : ∀ call s, P ⟨call, (world call s).1⟩) (p : Interaction I α) (s : σ) :
    ∀ e ∈ p.trace world s, P e := by
  induction p generalizing s with
  | done | crash => exact fun _ member => nomatch member
  | ask call next ih => exact List.forall_mem_cons.mpr ⟨replies call s, ih _ _⟩

theorem reply_of_mem_trace {world : (c : I.Call) → σ → I.Reply c × σ} {p : Interaction I α} {s : σ}
    {call : I.Call} {reply : I.Reply call} (h : ⟨call, reply⟩ ∈ p.trace world s) :
    ∃ s, reply = (world call s).1 := by
  have each : ∀ e ∈ p.trace world s, ∃ s, e.reply = (world e.call s).1 :=
    forall_mem_trace (fun _ s => ⟨s, rfl⟩) p s
  exact each _ h

section

variable {events : List (Event I)} {reason : String}

/-- The events of a run decide whether it comes to a result. -/
theorem Runs.not_crashes {p : Interaction I α} {a : α} (h : Runs p events a) :
    ¬ Crashes p events reason := by
  intro crash
  induction h with
  | done => cases crash
  | ask _ ih =>
    cases crash with
    | ask later => exact ih later

theorem crashes_ask {call : I.Call} {next : I.Reply call → Interaction I α} :
    Crashes (ask call next) events reason ↔
      ∃ reply later, events = ⟨call, reply⟩ :: later ∧ Crashes (next reply) later reason := by
  constructor
  · intro h
    cases h with
    | ask h => exact ⟨_, _, rfl, h⟩
  · rintro ⟨reply, later, rfl, h⟩
    exact .ask h

/-- A sequence crashes in its first part, or after that in its second. -/
theorem crashes_seq {p : Interaction I α} {f : α → Interaction I β} :
    Crashes (p >>= f) events reason ↔ Crashes p events reason ∨
      ∃ before after a, events = before ++ after ∧ Runs p before a ∧
        Crashes (f a) after reason := by
  constructor
  · intro h
    change Crashes (p.bind f) events reason at h
    induction p generalizing events with
    | done a => exact .inr ⟨[], events, a, rfl, .done a, h⟩
    | ask call next ih =>
      obtain ⟨reply, later, rfl, rest⟩ := crashes_ask.mp h
      rcases ih reply rest with first | ⟨before, after, a, rfl, hp, hf⟩
      · exact .inl (.ask first)
      · exact .inr ⟨_ :: before, after, a, rfl, .ask hp, hf⟩
    | crash =>
      cases h
      exact .inl (.crash reason)
  · rintro (h | ⟨before, after, a, rfl, hp, hf⟩)
    · change Crashes (p.bind f) events reason
      induction h with
      | crash reason => exact .crash reason
      | ask _ ih => exact .ask ih
    · change Crashes (p.bind f) (before ++ after) reason
      induction hp with
      | done => exact hf
      | ask _ ih => exact .ask (ih hf)

theorem crashes_reply {call : I.Call} {f : I.Reply call → Interaction I β} :
    Crashes (ask call done >>= f) events reason ↔
      ∃ reply later, events = ⟨call, reply⟩ :: later ∧ Crashes (f reply) later reason := crashes_ask

/-- In a crash that is all that is dropped, after what was done before. -/
theorem crashes_unwinding {p : Interaction I α} {drop : Interaction I Unit} (safe : drop.Safe) :
    Crashes (p.unwinding drop) events reason ↔
      ∃ before after, events = before ++ after ∧ Crashes p before reason ∧
        Runs drop after () := by
  induction p generalizing events with
  | done a =>
    refine ⟨fun h => (nomatch h), ?_⟩
    rintro ⟨before, after, _, crashed, _⟩
    cases crashed
  | ask call next ih =>
    rw [unwinding, crashes_ask]
    constructor
    · rintro ⟨reply, later, rfl, rest⟩
      obtain ⟨before, after, rfl, crashed, dropped⟩ := (ih reply).mp rest
      exact ⟨_ :: before, after, rfl, .ask crashed, dropped⟩
    · rintro ⟨before, after, rfl, crashed, dropped⟩
      obtain ⟨reply, later, rfl, rest⟩ := crashes_ask.mp crashed
      exact ⟨reply, later ++ after, rfl, (ih reply).mpr ⟨later, after, rfl, rest, dropped⟩⟩
  | crash told =>
    constructor
    · intro h
      rcases crashes_seq.mp (show Crashes (drop >>= fun _ => crash told) events reason from h) with
        within | ⟨before, after, _, rfl, dropped, rest⟩
      · exact absurd within (safe _ _)
      · cases rest
        exact ⟨[], before, by simp, .crash reason, dropped⟩
    · rintro ⟨before, after, rfl, crashed, dropped⟩
      cases crashed
      exact crashes_seq.mpr (.inr ⟨after, [], (), by simp, dropped, .crash reason⟩)

/-- A crash of an embedded program is its own, each event seen as one of the larger interface. -/
theorem crashes_embed {f : I.Call → J.Call} {g : (c : I.Call) → J.Reply (f c) → I.Reply c}
    {lift : Event I → Event J} (lifts : ∀ c reply, lift ⟨c, g c reply⟩ = ⟨f c, reply⟩)
    {p : Interaction I α} {events : List (Event J)} (h : Crashes (p.embed f g) events reason) :
    ∃ own, events = own.map lift ∧ Crashes p own reason := by
  induction p generalizing events with
  | done b => cases h
  | ask c next ih =>
    obtain ⟨reply, later, rfl, rest⟩ := crashes_ask.mp h
    obtain ⟨own, rfl, hp⟩ := ih (g c reply) rest
    exact ⟨⟨c, g c reply⟩ :: own, by rw [List.map_cons, lifts], .ask hp⟩
  | crash =>
    cases h
    exact ⟨[], rfl, .crash reason⟩

end

/-! What cannot crash: replies, what is made of them, and one such program after another. -/

theorem Safe.pure (a : α) : Safe (pure a : Interaction I α) :=
  fun _ _ h => nomatch h

theorem Safe.ask {call : I.Call} {next : I.Reply call → Interaction I α}
    (rest : ∀ reply, (next reply).Safe) : (ask call next).Safe := by
  intro events reason h
  obtain ⟨reply, later, _, crash⟩ := crashes_ask.mp h
  exact rest reply later reason crash

theorem Safe.call (call : I.Call) : (Interaction.ask call done).Safe :=
  .ask fun reply => .pure reply

theorem Safe.seq {p : Interaction I α} {f : α → Interaction I β} (first : p.Safe)
    (rest : ∀ a, (f a).Safe) : (p >>= f).Safe := by
  intro events reason h
  rcases crashes_seq.mp h with crash | ⟨_, later, a, _, _, crash⟩
  · exact first events reason crash
  · exact rest a later reason crash

theorem Safe.map {p : Interaction I α} (f : α → β) (safe : p.Safe) : (f <$> p).Safe :=
  safe.seq fun a => .pure (f a)

theorem Safe.embed {p : Interaction I α} {f : I.Call → J.Call}
    {g : (c : I.Call) → J.Reply (f c) → I.Reply c} (safe : p.Safe) : (p.embed f g).Safe := by
  induction p with
  | done b => exact .pure b
  | ask c next ih =>
    exact .ask fun reply => ih (g c reply) fun _ _ crash => safe _ _ (.ask crash)
  | crash reason => exact absurd (.crash reason) (safe [] reason)

end ReloadProbe.Interaction
