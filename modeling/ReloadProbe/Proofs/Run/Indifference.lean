import ReloadProbe.Proofs.Runs
import ReloadProbe.Run.Plan

/-!
Replies that make no difference. A program ignores a call if it goes on alike after every reply, and
then its runs stay runs, with the same result, when the reply is another one. A run ignores whether
its configuration file could be removed.
-/
namespace ReloadProbe

namespace Interaction

variable {I J : Interface} {α β : Type} {calls : I.Call → Prop}

/-- The program goes on in the same way after every reply to such a call. -/
inductive Ignores (calls : I.Call → Prop) : Interaction I α → Prop where
  | done (a : α) : Ignores calls (done a)
  | ask {call : I.Call} {next : I.Reply call → Interaction I α}
      (same : calls call → ∀ reply other, next reply = next other)
      (later : ∀ reply, Ignores calls (next reply)) : Ignores calls (ask call next)
  | crash (reason : String) : Ignores calls (crash reason)

theorem Ignores.bind {p : Interaction I α} {f : α → Interaction I β} (first : Ignores calls p)
    (later : ∀ a, Ignores calls (f a)) : Ignores calls (p >>= f) := by
  induction first with
  | done a => exact later a
  | @ask call next same _ ih =>
    refine .ask (fun ignored reply other => ?_) ih
    show (next reply).bind f = (next other).bind f
    rw [same ignored reply other]
  | crash reason => exact .crash reason

theorem Ignores.unwinding {p : Interaction I α} {drop : Interaction I Unit}
    (h : Ignores calls p) (dropping : Ignores calls drop) : Ignores calls (p.unwinding drop) := by
  induction h with
  | done a => exact .done a
  | @ask call next same _ ih =>
    refine .ask (fun ignored reply other => ?_) ih
    rw [same ignored reply other]
  | crash reason => exact dropping.bind fun _ => .crash reason

theorem ignores_call {call : I.Call} (other : ¬ calls call) :
    Ignores calls (ask call Interaction.done) :=
  .ask (fun ignored => absurd ignored other) .done

theorem ignores_embed {f : I.Call → J.Call} {g : (c : I.Call) → J.Reply (f c) → I.Reply c}
    {calls : J.Call → Prop} (others : ∀ c, ¬ calls (f c)) (p : Interaction I α) :
    Ignores calls (p.embed f g) := by
  induction p with
  | done a => exact .done a
  | ask c next ih => exact .ask (fun ignored => absurd ignored (others c)) fun reply => ih _
  | crash reason => exact .crash reason

theorem Ignores.runs {p : Interaction I α} {early late : List (Event I)} {call : I.Call}
    {reply : I.Reply call} {a : α} (h : Ignores calls p) (ignored : calls call)
    (run : Runs p (early ++ ⟨call, reply⟩ :: late) a) (other : I.Reply call) :
    Runs p (early ++ ⟨call, other⟩ :: late) a := by
  -- The call is the first of the run, or it comes later, after a reply that stays.
  induction h generalizing early with
  | done =>
    obtain ⟨empty, _⟩ := runs_done.mp run
    cases early <;> cases empty
  | @ask first next same _ ih =>
    obtain ⟨replied, rest, split, run⟩ := runs_ask.mp run
    cases early with
    | nil =>
      cases split
      rw [same ignored reply other] at run
      exact .ask run
    | cons event early =>
      obtain ⟨rfl, rfl⟩ := List.cons.inj split
      exact .ask (ih replied run)
  | crash => cases run

end Interaction

open Interaction Host Net

def Host.removes : Host.Call → Prop
  | .removeConfig _ => True
  | _ => False

namespace Plan

variable (p : Plan)

theorem ignores_net {α : Type} (q : Interaction link α) : Ignores removes (net q) :=
  ignores_embed (fun _ => id) q

theorem ignores_connectFrom (s : Scenario) (attempt left : Nat) :
    Ignores removes (p.connectFrom s attempt left) := by
  induction left generalizing attempt with
  | zero =>
    unfold connectFrom
    refine (ignores_net _).bind fun opened => ?_
    split
    · refine (ignores_call id).bind fun reply => ?_
      split <;> exact .done _
    · exact .done _
  | succ left ih =>
    unfold connectFrom
    refine (ignores_net _).bind fun opened => ?_
    split
    · refine (ignores_call id).bind fun reply => ?_
      split
      · exact .done _
      · exact .done _
      · exact (ignores_call id).bind fun _ => ih _
    · exact .done _

theorem ignores_cycles (n : Nat) (c : Client) (stage : Stage) :
    Ignores removes (p.cycles n c stage) := by
  induction n generalizing c stage with
  | zero => exact .done _
  | succ n ih =>
    refine (ignores_call id).bind fun delivered => ?_
    split
    · exact .done _
    · refine (ignores_net _).bind fun ⟨met, c⟩ => ?_
      cases met with
      | error => exact .done _
      | ok => exact ih _ _

theorem ignores_converse (c : Client) : Ignores removes (p.converse c) := by
  refine (p.ignores_cycles _ _ _).bind fun ⟨reloaded, c, stage⟩ => ?_
  cases reloaded with
  | error => exact .done _
  | ok =>
    refine (ignores_net _).bind fun ⟨alive, c⟩ => ?_
    cases alive <;> exact .done _

theorem ignores_attend (s : Scenario) : Ignores removes (p.attend s) := by
  refine (p.ignores_connectFrom s _ _).bind fun connected => ?_
  split
  · exact .done _
  · exact p.ignores_converse _

theorem ignores_drive (s : Scenario) (config : Path) : Ignores removes (p.drive s config) := by
  refine (ignores_call id).bind fun started => ?_
  split
  · exact .done _
  · exact (p.ignores_attend s).unwinding (ignores_call id)

theorem ignores_pause {α : Type} {lost : Bool} {q : Interaction host α}
    (later : Ignores removes q) :
    Ignores removes (if lost then sleep settle >>= fun _ => q else q) := by
  split
  · exact (ignores_call id).bind fun _ => later
  · exact later

theorem ignores_classify (e : Failure) : Ignores removes (classify e) := by
  unfold classify
  split
  · refine ignores_pause ((ignores_call id).bind fun reply => ?_)
    split <;> exact .done _
  · exact .done _

theorem ignores_verdict (progress : Progress) : Ignores removes (verdict progress) := by
  unfold verdict
  split
  · exact (ignores_classify _).bind fun _ => .done _
  · exact .done _

theorem ignores_remove (file : ConfigFile) (output : Option Output) :
    Ignores removes (do
      let (_, file) ← disk file.remove
      return (output, file)) := by
  unfold ConfigFile.remove
  split
  · exact .done _
  · exact .ask (fun _ _ _ => rfl) fun _ => .done _

theorem ignores_drop (file : ConfigFile) : Ignores removes (disk file.drop) := by
  unfold ConfigFile.drop ConfigFile.remove
  split
  · exact .done _
  · exact .ask (fun _ _ _ => rfl) fun _ => .done _

theorem ignores_tearDown (progress : Progress) (file : ConfigFile) :
    Ignores removes (tearDown progress file) := by
  have stop : Ignores removes (do
      let output ←
        if progress.started then do
          terminate
          some <$> wait
        else pure none
      let (_, file) ← disk file.remove
      return (output, file)) := by
    split
    · exact (ignores_call id).bind fun _ =>
        ((ignores_call id).bind fun _ => .done _).bind (ignores_remove file)
    · exact ignores_remove file none
  obtain ⟨result, stage, started, client⟩ := progress
  cases client with
  | some c => exact (ignores_net c.close).bind fun _ => stop
  | none => exact stop

theorem ignores_perform (id : String) (ports : Ports) (variant : Bool) :
    Ignores removes (p.perform id ports variant) := by
  have probing : Ignores removes (allocate ports) := ignores_embed (fun _ => False.elim) _
  refine probing.bind fun ⟨port, ports⟩ => ?_
  cases port with
  | error => exact .done _
  | ok port =>
    have writing (directory : Option Path) (contents : String) :
        Ignores removes (disk (ConfigFile.write directory contents)) :=
      .ask (fun ignored => ignored.elim) fun _ => .done _
    refine (writing _ _).bind fun written => ?_
    split
    · exact .done _
    · rename_i file
      refine ((p.ignores_drive _ _).unwinding (ignores_drop file)).bind fun progress => ?_
      refine (ignores_verdict progress).bind fun result => ?_
      refine (ignores_tearDown progress file).bind fun ⟨output, file⟩ => ?_
      exact (ignores_drop file).bind fun _ => .done _

theorem ignores_run (ports : Ports) (variant : Bool) : Ignores removes (p.run ports variant) := by
  refine (ignores_call id).bind fun id => ?_
  refine (ignores_net _).bind fun begun => ?_
  refine (p.ignores_perform id ports variant).bind fun ⟨outcome, ports⟩ => ?_
  exact (ignores_net _).bind fun ended => .done _

end Plan
end ReloadProbe
