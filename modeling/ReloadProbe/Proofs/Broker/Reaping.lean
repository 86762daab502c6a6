import ReloadProbe.Proofs.Broker.Calls

/-!
The end of a broker. The system tells of it once for all, and from then on the number of the process
may be that of another one, so nothing may be sent to it. The invariant is that an end that was told
is recorded (`Knows`): every call looks at the record before it does anything.
-/
namespace ReloadProbe.Subprocess

open Child Interaction

/-- A call on a broker, with all that it asked of the system. -/
structure Turn where
  op : Operation
  events : List (Event child)
  answer : Answer

/-- Calls on a broker, in any order, and what it is after them. -/
inductive Lives (b : Subprocess) : List Turn → Subprocess → Prop where
  | fresh : Lives b [] b
  | turn {history : List Turn} {c d : Subprocess} {op : Operation} {events : List (Event child)}
      {answer : Answer} (before : Lives b history c)
      (next : Runs (c.operate op) events (answer, d)) :
      Lives b (history ++ [⟨op, events, answer⟩]) d

def happened (history : List Turn) : List (Event child) := history.flatMap Turn.events

/-- The end of a broker was seen: it was answered, or told to a call that answered otherwise. -/
def Observed (history : List Turn) (exit : ExitState) : Prop :=
  ∃ turn ∈ history, turn.answer.exit? = some exit ∨ ∃ e ∈ turn.events, reports e = some exit

/-- What a call comes to once a broker has ended. -/
def Final (exit : ExitState) (c : Subprocess) :
    Operation → List (Event child) → Answer → Subprocess → Prop
  | .signal _, events, answer, d => answer = .signalled (.error .notRunning) ∧ events = [] ∧ d = c
  | .exitState, events, answer, d => answer = .state (.ok (some exit)) ∧ events = [] ∧ d = c
  | .terminate, events, _, d => events = [] ∧ d = c
  | .wait, events, answer, _ =>
    (∃ output, answer = .waited output ∧ output.exit = some exit) ∧ ∀ e ∈ events, ¬ Kills e

variable {b c d : Subprocess} {events looked acted : List (Event child)} {answer : Answer}
  {op : Operation} {history : List Turn}

/-- What was left behind is kept only once there is an end on record, and with that end. -/
def Sound (b : Subprocess) : Prop :=
  ∀ output, b.output = some output → output.exit = b.exit ∧ b.exit.isSome

/-- What a call leaves on record, where the system, when it is asked, tells of the end that is on
record already. -/
structure Carries (b : Subprocess) (events : List (Event child)) (answer : Answer)
    (c : Subprocess) : Prop where
  kept : ∀ exit, b.exit = some exit → c.exit = some exit
  recorded : ∀ e ∈ events, ∀ exit, reports e = some exit → c.exit = some exit
  reported : ∀ exit, c.exit = some exit →
    b.exit = some exit ∨ ∃ e ∈ events, reports e = some exit
  answered : ∀ exit, answer.exit? = some exit → c.exit = some exit
  output : ∀ output, b.output = some output → c.output = some output
  waited : ∀ output, answer = .waited output → c.output = some output
  sound : Sound c
  quiet : events.Pairwise Quiet
  still : b.exit.isSome → ∀ e ∈ events, ¬ Kills e

theorem Acts.carries {r : Except Failure (Option ExitState)} (h : Acts b looked acted r c)
    (sound : Sound b) (answered : ∀ exit, answer.exit? = some exit → c.exit = some exit)
    (unwaited : ∀ output, answer ≠ .waited output) : Carries b (looked ++ acted) answer c := by
  have kept (exit : ExitState) (recorded : b.exit = some exit) : c.exit = some exit := by
    rw [(h.settled recorded).2, recorded]
  constructor
  case kept => exact kept
  case recorded => exact fun e member exit told => h.recorded member told
  case reported =>
    intro exit recorded
    cases known : b.exit with
    | none =>
      obtain ⟨e, member, told⟩ := (h.look.told known exit).mp recorded
      exact .inr ⟨e, List.mem_append_left _ member, told⟩
    | some earlier => exact .inl ((kept earlier known).symm.trans recorded)
  case answered => exact answered
  case output =>
    intro output left
    rwa [h.look.output_eq]
  case waited => exact fun output same => absurd same (unwaited output)
  case sound =>
    intro output left
    rw [h.look.output_eq] at left
    obtain ⟨same, ended⟩ := sound output left
    obtain ⟨exit, ended⟩ := Option.isSome_iff_exists.mp ended
    rw [same, ended, kept exit ended]
    exact ⟨rfl, rfl⟩
  case quiet => exact h.quiet
  case still =>
    intro recorded e member
    obtain ⟨exit, recorded⟩ := Option.isSome_iff_exists.mp recorded
    rw [(h.settled recorded).1] at member
    cases member

theorem Waits.carries {output : Output} (h : Waits b events output c) (sound : Sound b)
    (repeats : Repeats b events) : Carries b events (.waited output) c := by
  cases h with
  | again known =>
    have silent {P : Event child → Prop} : ∀ e ∈ [], P e := by
      intro e member
      cases member
    constructor
    case kept => exact fun _ => id
    case recorded => exact silent
    case reported => exact fun _ => .inl
    case answered =>
      intro exit ended
      rw [← (sound output known).1]
      exact ended
    case output => exact fun _ => id
    case waited =>
      intro output' same
      rw [known, Answer.waited.inj same]
    case sound => exact sound
    case quiet => exact .nil
    case still => exact fun _ => silent
  | first unknown reaps stdout stderr =>
    rename_i awaited exit
    have early : Repeats b awaited := fun earlier known e member =>
      repeats earlier known e (List.mem_append_left _ member)
    have ended := reaps.kept early
    constructor
    case kept =>
      intro earlier known
      change (b.exit.orElse _) = _
      rw [known]
      rfl
    case recorded =>
      intro e member exit' told
      rcases List.mem_append.mp member with before | after
      · rw [(reaps.reports_iff exit').mp ⟨e, before, told⟩]
        exact ended
      · cases (drains_silent e after).symm.trans told
    case reported =>
      intro exit' known
      obtain rfl : exit = exit' := Option.some.inj (ended.symm.trans known)
      obtain ⟨e, member, told⟩ := (reaps.reports_iff exit).mpr rfl
      exact .inr ⟨e, List.mem_append_left _ member, told⟩
    case answered => exact fun _ => id
    case output =>
      intro output known
      cases unknown.symm.trans known
    case waited => exact fun _ same => congrArg some (Answer.waited.inj same)
    case sound =>
      intro output left
      cases left
      exact ⟨rfl, by simp⟩
    case quiet =>
      refine List.pairwise_append.mpr
        ⟨reaps.quiet, ?_, fun _ _ e member _ => drains_not_kills e member⟩
      exact List.pairwise_of_forall_mem_list fun _ _ e member _ => drains_not_kills e member
    case still =>
      intro recorded
      obtain ⟨earlier, known⟩ := Option.isSome_iff_exists.mp recorded
      refine List.forall_mem_append.mpr
        ⟨reaps.not_kills fun e member asks => ?_, drains_not_kills⟩
      rw [early earlier known e member asks]
      exact Option.some_ne_none _

theorem Does.carries (h : Does b op events answer c) (sound : Sound b)
    (repeats : Repeats b events) :
    Carries b events answer c := by
  cases h with
  | signal acts => exact acts.carries sound nofun nofun
  | exitState looks =>
    have found (exit : ExitState) (h : (Answer.state _).exit? = some exit) : c.exit = some exit :=
      looks.exit_eq.trans h
    simpa using looks.acts.carries sound found nofun
  | terminate acts => exact acts.carries sound nofun nofun
  | wait waits => exact waits.carries sound repeats

theorem Does.final {exit : ExitState} (h : Does b op events answer c) (sound : Sound b)
    (repeats : Repeats b events)
    (ended : b.exit = some exit) : Final exit b op events answer c := by
  have carries := h.carries sound repeats
  cases h with
  | signal acts refused =>
    obtain ⟨quiet, rfl⟩ := acts.settled ended
    exact ⟨congrArg Answer.signalled (refused (by simp [ended])), quiet, rfl⟩
  | exitState looks =>
    obtain ⟨rfl, rfl, rfl⟩ := looks.settled ended
    exact ⟨rfl, rfl, rfl⟩
  | terminate acts => exact acts.settled ended
  | wait waits =>
    have same := (carries.sound _ (carries.waited _ rfl)).1
    exact ⟨⟨_, rfl, same.trans (carries.kept exit ended)⟩, carries.still (by simp [ended])⟩

/-- The record of a broker against what was told of it and what was answered for it. -/
structure Knows (b : Subprocess) (history : List Turn) : Prop where
  recorded : ∀ e ∈ happened history, ∀ exit, reports e = some exit → b.exit = some exit
  reported : ∀ exit, b.exit = some exit → ∃ e ∈ happened history, reports e = some exit
  answered : ∀ turn ∈ history, ∀ exit, turn.answer.exit? = some exit → b.exit = some exit
  waited : ∀ turn ∈ history, ∀ output, turn.answer = .waited output → b.output = some output
  sound : Sound b
  quiet : (happened history).Pairwise Quiet

theorem happened_snoc (history : List Turn) (turn : Turn) :
    happened (history ++ [turn]) = happened history ++ turn.events := by
  simp [happened]

theorem spawn_unseen {command : Config.BrokerCommand} {grace : Duration} {config : Path}
    {port : UInt16} {launch : List (Event child)}
    (h : Runs (spawn command grace config port) launch (.ok b)) :
    b.exit = none ∧ b.output = none := by
  obtain ⟨reply, later, _, told⟩ := runs_reply.mp h
  cases reply with
  | ok pid =>
    cases (runs_pure.mp told).2
    exact ⟨rfl, rfl⟩
  | error source => exact nomatch (runs_pure.mp told).2

theorem Knows.spawned (unseen : b.exit = none) (empty : b.output = none) : Knows b [] where
  recorded := fun _ member => nomatch member
  reported := fun _ ended => nomatch unseen.symm.trans ended
  answered := fun _ member => nomatch member
  waited := fun _ member => nomatch member
  sound := fun _ left => nomatch empty.symm.trans left
  quiet := .nil

theorem Knows.repeats (known : Knows b history)
    (steady : (happened history ++ events).Pairwise Persists) : Repeats b events := by
  intro exit ended
  obtain ⟨earlier, before, told⟩ := known.reported exit ended
  exact fun e after asks =>
    (List.pairwise_append.mp steady).2.2 earlier before e after exit told asks

theorem Knows.turn (known : Knows b history) (carries : Carries b events answer c) :
    Knows c (history ++ [⟨op, events, answer⟩]) where
  recorded := by
    rw [happened_snoc]
    intro e member exit told
    rcases List.mem_append.mp member with before | after
    · exact carries.kept exit (known.recorded e before exit told)
    · exact carries.recorded e after exit told
  reported := by
    rw [happened_snoc]
    intro exit ended
    rcases carries.reported exit ended with before | ⟨e, after, told⟩
    · obtain ⟨e, before, told⟩ := known.reported exit before
      exact ⟨e, List.mem_append_left _ before, told⟩
    · exact ⟨e, List.mem_append_right _ after, told⟩
  answered := by
    intro turn member exit told
    rcases List.mem_append.mp member with before | last
    · exact carries.kept exit (known.answered turn before exit told)
    · cases List.mem_singleton.mp last
      exact carries.answered exit told
  waited := by
    intro turn member output told
    rcases List.mem_append.mp member with before | last
    · exact carries.output output (known.waited turn before output told)
    · cases List.mem_singleton.mp last
      exact carries.waited output told
  sound := carries.sound
  quiet := by
    rw [happened_snoc]
    refine List.pairwise_append.mpr ⟨known.quiet, carries.quiet, ?_⟩
    intro earlier before e after told
    obtain ⟨exit, told⟩ := Option.isSome_iff_exists.mp told
    have ended := known.recorded earlier before exit told
    exact carries.still (by simp [ended]) e after

theorem Lives.knows (lives : Lives b history c) (fresh : Knows b [])
    (reliable : ∀ e ∈ happened history, Reliable e)
    (steady : (happened history).Pairwise Persists) : Knows c history := by
  -- What is known before a turn makes the system repeat itself in it, and so is kept.
  induction lives with
  | fresh => exact fresh
  | turn before next ih =>
    rw [happened_snoc] at reliable steady
    have ⟨past, present⟩ := List.forall_mem_append.mp reliable
    have known := ih past (List.pairwise_append.mp steady).1
    exact known.turn ((runs_operate next present).carries known.sound (known.repeats steady))

/-- Once an end was seen, every call finds that end and nothing more is sent; and a broker has left
one thing behind, which every wait answers. -/
theorem exit_is_final {command : Config.BrokerCommand} {grace : Duration} {config : Path}
    {port : UInt16} {launch : List (Event child)}
    (spawned : Runs (spawn command grace config port) launch (.ok b)) (lives : Lives b history c)
    (next : Runs (c.operate op) events (answer, d))
    (reliable : ∀ e ∈ happened history ++ events, Reliable e)
    (steady : (happened history ++ events).Pairwise Persists) :
    (∀ exit, Observed history exit → Final exit c op events answer d) ∧
      (op = .wait → ∃ output exit, answer = .waited output ∧ output.exit = some exit ∧
        ∀ turn ∈ history, ∀ earlier, turn.answer = .waited earlier → earlier = output) ∧
      (happened history ++ events).Pairwise Quiet := by
  obtain ⟨unseen, empty⟩ := spawn_unseen spawned
  have ⟨past, present⟩ := List.forall_mem_append.mp reliable
  have known : Knows c history :=
    lives.knows (.spawned unseen empty) past (List.pairwise_append.mp steady).1
  have does := runs_operate next present
  have repeats := known.repeats steady
  have after : Knows d (history ++ [⟨op, events, answer⟩]) :=
    known.turn (does.carries known.sound repeats)
  refine ⟨fun exit observed => ?_, ?_, by simpa [happened_snoc] using after.quiet⟩
  · have ended : c.exit = some exit := by
      obtain ⟨turn, member, told | ⟨e, within, told⟩⟩ := observed
      · exact known.answered turn member exit told
      · exact known.recorded e (List.mem_flatMap.mpr ⟨turn, member, within⟩) exit told
    exact does.final known.sound repeats ended
  · rintro rfl
    cases does with
    | wait waits =>
      rename_i output
      have left : d.output = some output :=
        after.waited _ (List.mem_append_right _ (List.mem_singleton_self _)) output rfl
      obtain ⟨same, ended⟩ := after.sound output left
      obtain ⟨exit, ended⟩ := Option.isSome_iff_exists.mp ended
      refine ⟨output, exit, rfl, same.trans ended, fun turn member earlier told => ?_⟩
      have kept := after.waited turn (List.mem_append_left _ member) earlier told
      exact Option.some.inj (kept.symm.trans left)

def young : Subprocess := { pid := some 7, grace := .ofSeconds 5 }

def three : ExitState := .ofCode 3

def left : Output := { exit := some three, stdout := [0x61] }

def found : Subprocess := { young with exit := some three }

def gone : Subprocess := { found with output := some left }

def stopping : List (Event child) :=
  [⟨Call.poll, .ok none⟩, ⟨Call.kill 7 .terminate, Sent.delivered⟩]

def finding : List (Event child) := [⟨Call.poll, .ok (some three)⟩]

def waiting : List (Event child) :=
  [⟨Call.await (some young.grace), Waited.exited three⟩, ⟨Call.drain .stdout young.grace, [0x61]⟩,
    ⟨Call.drain .stderr young.grace, []⟩]

/-- It is told to stop while it runs, is then found to have stopped, and is waited for. -/
def stopped : List Turn :=
  [⟨.terminate, stopping, .terminated⟩, ⟨.exitState, finding, .state (.ok (some three))⟩,
    ⟨.wait, waiting, .waited left⟩]

theorem exit_is_final_stopped :
    Observed stopped three ∧ Final three gone .wait [] (.waited left) gone ∧
    (∀ turn ∈ stopped, ∀ earlier, turn.answer = .waited earlier → earlier = left) ∧
    (happened stopped).Pairwise Quiet := by
  have spawned : Runs (spawn {} young.grace ⟨[]⟩ 1883) [⟨Call.spawn _, .ok (some 7)⟩]
      (.ok young) := .ask (.done _)
  have first : Runs (young.operate .terminate) stopping (.terminated, young) :=
    .ask (.ask (.done _))
  have second : Runs (young.operate .exitState) finding (.state (.ok (some three)), found) :=
    .ask (.done _)
  have third : Runs (found.operate .wait) waiting (.waited left, gone) :=
    .ask (.ask (.ask (.done _)))
  have lives : Lives young stopped gone := .turn (.turn (.turn .fresh first) second) third
  have next : Runs (gone.operate .wait) [] (.waited left, gone) := .done _
  have reliable : ∀ e ∈ happened stopped ++ [], Reliable e := by
    simp [happened, stopped, stopping, finding, waiting, Reliable]
    exact nofun
  have steady : (happened stopped ++ []).Pairwise Persists := by
    simp [happened, stopped, stopping, finding, waiting, Persists, reports, Asks, Except.toOption]
  have observed : Observed stopped three := ⟨_, .tail _ (.head _), .inl rfl⟩
  obtain ⟨final, answers, quiet⟩ := exit_is_final spawned lives next reliable steady
  obtain ⟨output, exit, same, _, alone⟩ := answers rfl
  cases same
  exact ⟨observed, final three observed, alone, by simpa using quiet⟩

end ReloadProbe.Subprocess
