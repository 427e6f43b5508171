import Transclude.Extractor
import Transclude.Text.Search

/-! # The external tool

Excerpts of Go can be cut by a program that reads the source from its standard
input and writes the text of a declaration to its standard output.  The text is
taken apart here.  What the program writes counts only if it ends with exit
code 0.

When the extraction is cancelled while the program works, the program is killed
and waited for, also if there is nothing left to kill.  Until a child process has
been waited for, something of it is left, even if it has ended. -/

namespace Transclude

/-- How the work with a child process ends. -/
inductive Tool.Ending where
  | exited (code : Int) (output errors : ByteArray)
  /-- The extraction is cancelled while the process works; `gone` says that the process ended
      before it could be killed. -/
  | cancelled (gone : Bool)

/-- What is done to a child process that is not wanted any more. -/
inductive Tool.Signal where
  | kill
  | wait
deriving Repr, DecidableEq

/-- What there is of a child process. -/
inductive Tool.Stage where
  | working
  /-- It has ended, and has not been waited for. -/
  | ended
  /-- Nothing is left of it. -/
  | collected
deriving Repr, DecidableEq

/-- A child process, and what was done to it. -/
structure Tool.Child where
  stage : Tool.Stage := .working
  signals : List Tool.Signal := []

/-- A start of a program: what was started, and the child process with its input, if there is
    one. -/
structure Tool.Call where
  executable : String
  argument : String
  child : Option (ByteArray × Tool.Child)

/-- Why a program is not started. -/
inductive Tool.Refusal where
  /-- The system cannot start it. -/
  | fault (f : Fault)
  /-- The extraction is cancelled before there is a process. -/
  | cancelled

/-- What breaks off the work with a child process. -/
inductive Tool.Break where
  | cancelled
  /-- There is no process to kill. -/
  | noProcess
deriving Repr, DecidableEq

/-- Work with a child process.  What was done before it broke off stays done. -/
abbrev Tool.Handling (α : Type) := EStateM Tool.Break Tool.Child α

/-- How an extraction ends. -/
inductive Tool.Outcome where
  | finished (result : Except Failure Snippet)
  | cancelled

/-- An installed program. -/
structure Tool where
  executable : String
  /-- Start the program with an argument.  How it ends depends on what it is given to read. -/
  start : (argument : String) → Except Tool.Refusal ((input : ByteArray) → Tool.Ending)

namespace Tool

/-- The program for a command, if it is installed. -/
def require (command : String) : Option Tool → Except Failure Tool
  | some tool => .ok tool
  | none => .error (.of (.toolNotInstalled command))

/-- The argument that asks for a declaration. -/
def argument (kind : Kind) (name : String) : String := "--pick=" ++ kind.tag ++ ":" ++ name

/-- The excerpt that a process gave. -/
def result (lib : Go.Library) (kind : Kind) (name : String) (code : Int)
    (output errors : ByteArray) : Except Failure Snippet :=
  if code = 0 then
    match Text.decode output with
    | .ok text => Go.split lib name text
    | .error fault => .error (.fault (Fault.undecodable fault))
  else
    let message := Text.stripped (Text.decodeLossy errors)
    if Text.contains "not found".toList (Text.lowercase message).toList then
      .error (.of (.toolFoundNothing kind name message))
    else .error (.of (.toolFailed message))

/-- Kill the child. -/
def kill : Handling Unit := do
  modify fun child => { child with signals := child.signals ++ [.kill] }
  match (← get).stage with
  | .working => modify fun child => { child with stage := .ended }
  | .ended | .collected => throw .noProcess

/-- Wait until the child has ended, so that nothing is left of it. -/
def wait : Handling Unit :=
  modify fun child => { stage := .collected, signals := child.signals ++ [.wait] }

/-- Give the child its input and read what it writes, until it has ended. -/
def communicate : Ending → Handling (Int × ByteArray × ByteArray)
  | .exited code output errors => do
    modify fun child => { child with stage := .collected }
    return (code, output, errors)
  | .cancelled gone => do
    if gone then modify fun child => { child with stage := .ended }
    throw .cancelled

/-- The same, but a child that is cancelled is not left behind. -/
def converse (ending : Ending) : Handling (Int × ByteArray × ByteArray) :=
  tryCatch (communicate ending) fun
    | .cancelled => do
      tryCatch kill fun
        | .noProcess => return
        | .cancelled => throw .cancelled
      wait
      throw .cancelled
    | .noProcess => throw .noProcess

/-- A child that ends by itself has been waited for. -/
theorem converse_exited (code : Int) (output errors : ByteArray) (child : Child) :
    converse (.exited code output errors) child =
      .ok (code, output, errors) { child with stage := .collected } := rfl

/-- A child that is cancelled is killed and then waited for, also if it has ended before. -/
theorem converse_cancelled (gone : Bool) (child : Child) :
    converse (.cancelled gone) child =
      .error .cancelled { stage := .collected, signals := child.signals ++ [.kill, .wait] } := by
  obtain ⟨stage, signals⟩ := child
  have hsignals : signals ++ [.kill, .wait] = signals ++ [.kill] ++ [.wait] := by simp
  rw [hsignals]
  -- Killing finds a process only if the child is working, and what it says is not passed on.
  cases gone <;> cases stage <;> rfl

/-- How an extraction ends that is broken off. -/
def Break.outcome : Break → Outcome
  | .cancelled => .cancelled
  | .noProcess => .finished (.error (.fault .noProcess))

/-- How an extraction ends for which the program is not started. -/
def Refusal.outcome : Refusal → Outcome
  | .fault f => .finished (.error (.fault f))
  | .cancelled => .cancelled

/-- Cut an excerpt out of `source` with the program, and the starts of the program for it. -/
def extract (tool : Tool) (lib : Go.Library) (source name : String) (kind : Kind) :
    Outcome × List Call :=
  match kind with
  | .file => (.finished (.ok { name, body := source }), [])
  | .node => (.finished (.error (.of (.kindOutsideExtractor .tool kind))), [])
  | .type | .function =>
    let argument := argument kind name
    let call := fun child => [{ executable := tool.executable, argument, child }]
    match tool.start argument with
    | .error refusal => (refusal.outcome, call none)
    | .ok run =>
      let input := Text.encode source
      match converse (run input) {} with
      | .ok (code, output, errors) child =>
        (.finished (result lib kind name code output errors), call (some (input, child)))
      | .error e child => (e.outcome, call (some (input, child)))

/-- The program as an extractor.  An extraction that is cancelled gives nothing. -/
def extractor (lib : Go.Library) (tool : Tool) : Extractor :=
  { extract := fun source name kind =>
      match (tool.extract lib source name kind).1 with
      | .finished result => result
      | .cancelled => .error .stalled
    serialize := Go.serialize
    restore := Go.restore lib }

end Tool

end Transclude
