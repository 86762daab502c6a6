import ReloadProbe.Rehearsal.Shell.Token

/-!
The grammar of scripts. A script is read one complete line of commands at a time, since what a line
does may change how the next ones are read, and since a fault in a later line must not keep the
earlier ones from being run.
-/
namespace ReloadProbe.Rehearsal.Shell

/-- A token that can only stand after a list of commands. -/
def Token.endsList : Token → Bool
  | ending => true
  | operator s => s == ")" || s == ";;"
  | keyword s => ["do", "done", "elif", "else", "esac", "fi", "then", "\x7d"].contains s
  | _ => false

def Word.characters (w : Word) : List Char :=
  w.filterMap fun
    | .plain c | .quoted c => some c
    | _ => none

def Word.arguments : Word := [.mark, .parameter "@" .value [], .mark]

def Command.inBackground (line : Nat) : Command → Command
  | .pipeline commands _ => .pipeline commands true
  | .redirected line c redirections => .background line c redirections
  | c => .background line c []

def specialBuiltins : List String :=
  [".", ":", "break", "continue", "eval", "exec", "exit", "export", "readonly", "return", "set",
    "shift", "times", "trap", "unset"]

namespace Parse

def patternOf : Token → Word
  | .word w _ => w
  | .keyword s => s.toList.map .plain
  | _ => []

def completed (r : Redirecting) (w : Word) (quoted : Bool) : Parse Redirection := do
  match r with
  | .file fd opening => return .file fd opening w
  | .copy fd => return .copy fd w
  | .document fd stripTabs =>
    let r ← get
    let number := r.nextDocument
    let mark := if stripTabs then w.characters.dropWhile (· == '\t') else w.characters
    let e : Expected := { number, endMark := mark, stripTabs, verbatim := quoted }
    set { r with nextDocument := number + 1, expected := r.expected ++ [e] }
    return .document fd number

mutual

def scripts : (limit : Nat) → Scripts
  | 0 => { upToBracket := return none, upToEnd := return none }
  | limit + 1 =>
    { upToBracket := do
        let c ← commandList limit false true none
        let t ← token (scripts limit) limit
        if t.isOperator ")" then return c else unexpected (some "\")\"")
      upToEnd := commandList limit false true none }

/-- Commands up to the end of the line if `top` says so, or else up to a token that can only stand
after them. `mayEnd` tells whether they may end already. -/
def commandList : (limit : Nat) → (top mayEnd : Bool) → Option Command → Parse (Option Command)
  | 0, _, _, _ => unexpected
  | limit + 1, top, mayEnd, before => do
    look { Checks.command with skipLines := !top }
    let t ← token (scripts limit) limit
    if t.isNewline then
      readDocuments (scripts limit) limit
      return before
    else
      unread
      if t.isEnding then return before
      else if !top && mayEnd && t.endsList then return before
      else
        let line := (← get).line
        let c ← andOr limit
        let t ← token (scripts limit) limit
        let c := if t.isOperator "&" then c.inBackground line else c
        let all := match before with
          | none => c
          | some b => .sequence b c
        if t.isOperator "&" || t.isOperator ";" then commandList limit top true (some all)
        else
          unread
          if t.isNewline then commandList limit top true (some all)
          else if top && !t.isEnding then unexpected
          else return some all

def andOr : (limit : Nat) → Parse Command
  | 0 => unexpected
  | limit + 1 => do andOrFrom limit (← pipeline limit)

def andOrFrom : (limit : Nat) → Command → Parse Command
  | 0, _ => unexpected
  | limit + 1, c => do
    let t ← token (scripts limit) limit
    if t.isOperator "&&" then
      look .nextCommand
      andOrFrom limit (.both c (← pipeline limit))
    else if t.isOperator "||" then
      look .nextCommand
      andOrFrom limit (.either c (← pipeline limit))
    else
      unread
      return c

def pipeline : (limit : Nat) → Parse Command
  | 0 => unexpected
  | limit + 1 => do
    let t ← token (scripts limit) limit
    let negated := t.isKeyword "!"
    if negated then look .command else unread
    let first ← command limit
    let more ← pipelineRest limit
    let c := if more.isEmpty then first else .pipeline (first :: more) false
    return if negated then .negation c else c

def pipelineRest : (limit : Nat) → Parse (List Command)
  | 0 => unexpected
  | limit + 1 => do
    let t ← token (scripts limit) limit
    if t.isOperator "|" then
      look .nextCommand
      let c ← command limit
      return c :: (← pipelineRest limit)
    else
      unread
      return []

def expectKeyword : (limit : Nat) → String → Parse Unit
  | 0, _ => unexpected
  | limit + 1, k => do
    let t ← token (scripts limit) limit
    if t.isKeyword k then return () else unexpected (some s!"\"{k}\"")

/-- Commands, of which there is at least one. At the end of the script there is none, and then what
must follow the commands is missed. -/
def someCommands : (limit : Nat) → Parse Command
  | 0 => unexpected
  | limit + 1 => return (← commandList limit false false none).getD (.simple 0 [] [] [])

def command : (limit : Nat) → Parse Command
  | 0 => unexpected
  | limit + 1 => do
    let line := (← get).line
    let t ← token (scripts limit) limit
    match t with
    | .keyword "if" =>
      let c ← conditional limit
      expectKeyword limit "fi"
      redirected limit line c
    | .keyword "while" => loop limit line true
    | .keyword "until" => loop limit line false
    | .keyword "for" =>
      let c ← each limit line
      redirected limit line c
    | .keyword "case" =>
      let subject ← match ← token (scripts limit) limit with
        | .word w _ => pure w
        | _ => unexpected (some "word")
      look .nextCommand
      expectKeyword limit "in"
      let arms ← caseArms limit
      redirected limit line (.choice line subject arms)
    | .operator "(" =>
      let c ← someCommands limit
      let t ← token (scripts limit) limit
      if t.isOperator ")" then
        look .command
        return .subshell line c (← redirections limit)
      else unexpected (some "\")\"")
    | .keyword "\x7b" =>
      let c ← someCommands limit
      expectKeyword limit "\x7d"
      redirected limit line c
    | .word _ _ | .redirection _ =>
      unread
      simple limit (← get).line [] [] [] true
    | _ => unexpected

def redirected : (limit : Nat) → Nat → Command → Parse Command
  | 0, _, _ => unexpected
  | limit + 1, line, c => do
    look .command
    match ← redirections limit with
    | [] => return c
    | rs => return .redirected line c rs

def redirections : (limit : Nat) → Parse (List Redirection)
  | 0 => unexpected
  | limit + 1 => do
    match ← token (scripts limit) limit with
    | .redirection r =>
      let r ← redirection limit r
      return r :: (← redirections limit)
    | _ =>
      unread
      return []

def redirection : (limit : Nat) → Redirecting → Parse Redirection
  | 0, _ => unexpected
  | limit + 1, r => do
    match r with
    | .document _ _ => look { endMark := true }
    | _ => pure ()
    match ← token (scripts limit) limit with
    | .word w quoted => completed r w quoted
    | _ => unexpected

def conditional : (limit : Nat) → Parse Command
  | 0 => unexpected
  | limit + 1 => do
    let condition ← someCommands limit
    expectKeyword limit "then"
    let yes ← someCommands limit
    match ← token (scripts limit) limit with
    | .keyword "elif" => return .branch condition yes (some (← conditional limit))
    | .keyword "else" => return .branch condition yes (some (← someCommands limit))
    | _ =>
      unread
      return .branch condition yes none

def loop : (limit : Nat) → Nat → Bool → Parse Command
  | 0, _, _ => unexpected
  | limit + 1, line, goOn => do
    let condition ← someCommands limit
    expectKeyword limit "do"
    let body ← someCommands limit
    expectKeyword limit "done"
    redirected limit line (.loop goOn condition body)

def each : (limit : Nat) → Nat → Parse Command
  | 0, _ => unexpected
  | limit + 1, line => do
    let name ← match ← token (scripts limit) limit with
      | .word w false => pure (w.literal?.getD "")
      | _ => pure ""
    if !isName name then fail "Bad for loop variable"
    else
      look .nextCommand
      let t ← token (scripts limit) limit
      let words ←
        if t.isKeyword "in" then eachWords limit
        else
          if !t.isOperator ";" then unread
          pure [Word.arguments]
      look .nextCommand
      expectKeyword limit "do"
      let body ← someCommands limit
      expectKeyword limit "done"
      return .each line name words body

def eachWords : (limit : Nat) → Parse (List Word)
  | 0 => unexpected
  | limit + 1 => do
    match ← token (scripts limit) limit with
    | .word w _ => return w :: (← eachWords limit)
    | t => if t.isNewline || t.isOperator ";" then return [] else unexpected

def caseArms : (limit : Nat) → Parse (List (List Word × Option Command))
  | 0 => unexpected
  | limit + 1 => do
    look { skipLines := true, keywords := true }
    let t ← token (scripts limit) limit
    if t.isKeyword "esac" then return []
    else
      let t ← if t.isOperator "(" then token (scripts limit) limit else pure t
      let patterns ← patternsFrom limit t
      let body ← commandList limit false true none
      look { skipLines := true, keywords := true }
      let t ← token (scripts limit) limit
      if t.isKeyword "esac" then return [(patterns, body)]
      else if t.isOperator ";;" then return (patterns, body) :: (← caseArms limit)
      else unexpected (some "\";;\"")

def patternsFrom : (limit : Nat) → Token → Parse (List Word)
  | 0, _ => unexpected
  | limit + 1, t => do
    let separator ← token (scripts limit) limit
    if separator.isOperator "|" then
      let next ← token (scripts limit) limit
      return patternOf t :: (← patternsFrom limit next)
    else if separator.isOperator ")" then return [patternOf t]
    else unexpected (some "\")\"")

/-- A simple command or the definition of a function. Words are assignments as long as all words
before them are. -/
def simple : (limit : Nat) → (line : Nat) → (assignments words : List Word) → List Redirection →
    (mayAssign : Bool) → Parse Command
  | 0, _, _, _, _, _ => unexpected
  | limit + 1, line, assignments, words, rs, mayAssign => do
    look { aliases := mayAssign }
    let t ← token (scripts limit) limit
    match t, words with
    | .word w _, words =>
      if mayAssign && w.isAssignment then simple limit line (assignments ++ [w]) words rs true
      else simple limit line assignments (words ++ [w]) rs false
    | .redirection r, words =>
      let r ← redirection limit r
      simple limit line assignments words (rs ++ [r]) mayAssign
    | t, [w] =>
      if t.isOperator "(" && assignments.isEmpty && rs.isEmpty then
        let t ← token (scripts limit) limit
        if !t.isOperator ")" then unexpected (some "\")\"")
        else
          let name := w.literal?.getD ""
          if !isName name || specialBuiltins.contains name then fail "Bad function name"
          else
            look .nextCommand
            let line := (← get).line
            return .define line name (← command limit)
      else
        unread
        return .simple line assignments words rs
    | _, words =>
      unread
      return .simple line assignments words rs

end

inductive Line where
  | ending
  | empty
  | commands (c : Command)

def line (limit : Nat) : Parse Line := do
  modify fun r => { r with again := false, checks := {}, expected := [] }
  match ← commandList limit true false none with
  | some c => return .commands c
  | none => return if (← last).isEnding then .ending else .empty

end Parse

def Reader.ofText (text : List Char) : Reader := { sources := [{ text }] }

def Reader.limit (r : Reader) : Nat :=
  let aliased := r.aliases.foldl (fun sum (_, value) => sum + value.length + 1) 0
  let left := r.sources.foldl (fun sum s => sum + s.text.length) 0
  64 * (left + 64) * (aliased + 1)

/-- The next line of commands, and the reader after it; or what is wrong. -/
def Reader.nextLine (r : Reader) : Except SyntaxFault (Parse.Line × Reader) :=
  (Parse.line r.limit).run r

end ReloadProbe.Rehearsal.Shell
