/-!
Programs that call on the world around them. A program is a finite tree: a result, a crash, or a call
and what to do after each possible reply. `Runs` says which calls and replies lead to which result,
over all worlds, and `Crashes` which lead to none; `run` follows the replies of one world.
-/
namespace ReloadProbe

structure Interface where
  Call : Type
  Reply : Call → Type

inductive Interaction (I : Interface) (α : Type) where
  | done (a : α)
  | ask (call : I.Call) (next : I.Reply call → Interaction I α)
  /-- Nothing is done after this, and there is no result. -/
  | crash (reason : String)

structure Event (I : Interface) where
  call : I.Call
  reply : I.Reply call

namespace Interaction

variable {I J : Interface} {α β σ : Type}

def bind (p : Interaction I α) (f : α → Interaction I β) : Interaction I β :=
  match p with
  | done a => f a
  | ask call next => ask call fun reply => (next reply).bind f
  | crash reason => crash reason

instance : Monad (Interaction I) where
  pure := done
  bind := bind

def call (c : I.Call) : Interaction I (I.Reply c) := ask c done

/-- The same program where its calls are some of the calls of another interface. -/
def embed (f : I.Call → J.Call) (g : (c : I.Call) → J.Reply (f c) → I.Reply c) :
    Interaction I α → Interaction J α
  | done a => done a
  | ask c next => ask (f c) fun reply => (next (g c reply)).embed f g
  | crash reason => crash reason

/-- The same program, which drops what it holds when it crashes. -/
def unwinding (p : Interaction I α) (drop : Interaction I Unit) : Interaction I α :=
  match p with
  | done a => done a
  | ask c next => ask c fun reply => (next reply).unwinding drop
  | crash reason => drop.bind fun () => crash reason

/-- Follows the replies of a world with a state, to a result or the reason of a crash. -/
def run (world : (c : I.Call) → σ → I.Reply c × σ) : Interaction I α → σ → Except String α × σ
  | done a, s => (.ok a, s)
  | ask c next, s =>
    let (reply, s) := world c s
    (next reply).run world s
  | crash reason, s => (.error reason, s)

/-- The calls and replies that lead a program to a result. -/
inductive Runs : Interaction I α → List (Event I) → α → Prop where
  | done (a : α) : Runs (done a) [] a
  | ask {call : I.Call} {next : I.Reply call → Interaction I α} {reply : I.Reply call}
      {events : List (Event I)} {a : α} :
      Runs (next reply) events a → Runs (ask call next) (⟨call, reply⟩ :: events) a

/-- The calls and replies after which a program crashes. -/
inductive Crashes : Interaction I α → List (Event I) → String → Prop where
  | crash (reason : String) : Crashes (crash reason) [] reason
  | ask {call : I.Call} {next : I.Reply call → Interaction I α} {reply : I.Reply call}
      {events : List (Event I)} {reason : String} :
      Crashes (next reply) events reason →
        Crashes (ask call next) (⟨call, reply⟩ :: events) reason

theorem runs_bind {p : Interaction I α} {f : α → Interaction I β} {before after : List (Event I)}
    {a : α} {b : β} (hp : Runs p before a) (hf : Runs (f a) after b) :
    Runs (p.bind f) (before ++ after) b := by
  induction hp with
  | done => exact hf
  | ask _ ih => exact .ask (ih hf)

theorem runs_bind_iff {p : Interaction I α} {f : α → Interaction I β} {events : List (Event I)}
    {b : β} :
    Runs (p.bind f) events b ↔
      ∃ before after a, events = before ++ after ∧ Runs p before a ∧ Runs (f a) after b := by
  constructor
  · intro h
    induction p generalizing events with
    | done a => exact ⟨[], events, a, rfl, .done a, h⟩
    | ask c next ih =>
      cases h with
      | ask h =>
        obtain ⟨before, after, a, rfl, hp, hf⟩ := ih _ h
        exact ⟨_ :: before, after, a, rfl, .ask hp, hf⟩
    | crash reason => cases h
  · rintro ⟨before, after, a, rfl, hp, hf⟩
    exact runs_bind hp hf

end Interaction
end ReloadProbe
