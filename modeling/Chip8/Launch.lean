import Chip8.Device.StandIn
import Chip8.Keyboard.Basic
import Chip8.Options.Help
import Chip8.Options.Parse
import Chip8.Options.Path
import Chip8.Session.Loop
import Chip8.Text.Quoted

/-! # From the command line to the exit code

    A launch reads the command line, opens the program, loads it and runs it until it ends. What
    goes wrong on the way is reported as a context and its cause. The program counter in a report is
    read after the fault.

    Here a launch takes place in a small world that is given whole: a parser of command lines, a
    folder, the bytes typed before the start, and the readings of the clock. -/

namespace Chip8

/-- What is left of a launch. -/
structure Outcome where
  exitCode : Nat
  /-- What is written to the standard output. -/
  output : String := ""
  /-- What is written to the standard error. -/
  report : String := ""
  deriving DecidableEq, Inhabited

namespace Launch

/-! ### Reports -/

/-- The outcome of a failure. -/
def failure (context cause : String) : Outcome where
  exitCode := 1
  report := "Error: " ++ context ++ "\n\nCaused by:\n    " ++ cause ++ "\n"

/-- The program cannot be opened. -/
def notOpened (path : List UInt8) (cause : String) : Outcome :=
  failure ("failed to open " ++ Text.quotedBytes path) cause

/-- The program cannot be loaded. -/
def notLoaded (path : List UInt8) (fault : Fault) : Outcome :=
  failure ("failed to load " ++ Text.quotedBytes path) fault.message

/-- The program failed while it ran. -/
def failed (path : List UInt8) (pc : UInt16) (fault : Fault) : Outcome :=
  failure ("emulation of " ++ Text.quotedBytes path ++ " failed at 0x" ++ Text.hex 3 pc.toNat)
    fault.message

/-- There was nothing to launch. -/
def refused (refusal : Options.Refusal) : Outcome :=
  match refusal.exitCode with
  | 0 => { exitCode := 0, output := refusal.text }
  | code => { exitCode := code, report := refusal.text }

/-- The outcome of a run that ended with `result` and the machine as given. -/
def ended (path : List UInt8) (machine : Machine) : Except Fault Unit → Outcome
  | .ok () => { exitCode := 0 }
  | .error fault => failed path machine.pc fault

/-! ### Folders -/

/-- Nothing has this name. -/
def noSuchFile : String := "No such file or directory (os error 2)"

/-- A file stands where a directory was expected. -/
def notADirectory : String := "Not a directory (os error 20)"

/-- A directory stands where a file was expected. -/
def isADirectory : String := "Is a directory (os error 21)"

/-- No file can have this name. -/
def nameTooLong : String := "File name too long (os error 36)"

/-- The most bytes of a path. -/
def longestPath : Nat := 4095

/-- The most bytes of one name in a path. -/
def longestName : Nat := 255

/-- What is wrong with a name that a directory does not hold. -/
def missing (name : List UInt8) : String :=
  if longestName < name.length then nameTooLong else noSuchFile

/-- The directory that a launch takes place in, with no directory in it, and what is known of the
    directories around it. -/
structure Folder where
  /-- Names and contents. -/
  files : List (List UInt8 × List UInt8)
  /-- The directories that are known by their components from the root on. -/
  around : List (List (List UInt8)) := [[]]
  /-- The files that are known by their components from the root on. -/
  elsewhere : List (List (List UInt8) × List UInt8) := []
  deriving DecidableEq

namespace Folder

/-- What comes out of a directory: it can be opened, and then refuses to be read. -/
def directory : Delivery := .broken [] isADirectory

/-- What comes out of a path at which a file of this name has been found. Whatever follows the name,
    a slash included, asks for a directory. -/
def deliverFile (path name : List UInt8) (rest : List (List UInt8)) (bytes : List UInt8) :
    Except String Delivery :=
  if rest.isEmpty && (Path.split path).getLast? = some name then .ok (.whole bytes)
  else .error notADirectory

/-- What comes out of a path from the root on: `place` is the directory reached so far, and the
    components to come are given. The parent of the root is the root. -/
def deliverFrom (folder : Folder) (path : List UInt8) (place : List (List UInt8)) :
    List (List UInt8) → Except String Delivery
  | [] => .ok directory
  | name :: rest =>
    let next := if name = Path.parent then place.dropLast else place ++ [name]
    if folder.around.contains next then folder.deliverFrom path next rest
    else match folder.elsewhere.lookup next with
      | none => .error (missing name)
      | some bytes => deliverFile path name rest bytes

/-- What comes out of a path from the folder on. Of the folder's parents nothing is known but that
    they are directories. -/
def deliverHere (folder : Folder) (path : List UInt8) : Except String Delivery :=
  match Path.components path with
  | [] => .ok directory
  | name :: rest =>
    if name = Path.parent then
      match rest.find? (· ≠ Path.parent) with
      | none => .ok directory
      | some name => .error (missing name)
    else match folder.files.lookup name with
      | none => .error (missing name)
      | some bytes => deliverFile path name rest bytes

/-- What comes out of a path. -/
def deliver (folder : Folder) (path : List UInt8) : Except String Delivery :=
  if longestPath < path.length then .error nameTooLong
  else if path.head? = some Path.slash then folder.deliverFrom path [] (Path.components path)
  else folder.deliverHere path

end Folder

/-! ### The launch -/

/-- The session of a program that has been loaded, with somebody who has typed already. -/
def session {σ : Type} (options : Options) (interpreter : Interpreter σ) (typed : List UInt8) :
    Session σ FrameKeeper Typist Mute where
  interpreter
  display := {}
  input := {
    keyboard := .idle options.layout options.hold
    typed := [typed] }
  buzzer := {}
  rates := options.rates

/-- Launch, if the program ends within the readings of the clock. -/
def run {σ : Type} [ByteSource σ] (parser : Command.Parser) (folder : Folder) (source : σ)
    (words : List (List UInt8)) (typed : List UInt8) (readings : List Nat) : Option Outcome :=
  match Options.parse parser words with
  | .error refusal => some (refused refusal)
  | .ok options =>
    match folder.deliver options.rom with
    | .error cause => some (notOpened options.rom cause)
    | .ok program =>
      let loading := Interpreter.load program (Interpreter.fresh source)
      match loading.result with
      | .error fault => some (notLoaded options.rom fault)
      | .ok _ =>
        (Session.run readings (session options loading.state typed)).map fun turn =>
          ended options.rom turn.state.interpreter.machine turn.result

end Launch

end Chip8
