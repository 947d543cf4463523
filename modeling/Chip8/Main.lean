import Chip8.Session

/-!
The command line. It reads files and the environment, hands typed bytes and instants to the
session and writes what the session wrote; it decides nothing. The console should be in raw mode
when the program starts, so that keys arrive one by one.
-/

namespace Chip8

/-- Why the system refused a call. -/
def Fault.ofSystem (e : IO.Error) : Fault :=
  match e with
  | .noFileOrDirectory .. => .notFound
  | .alreadyExists .. => .alreadyThere
  | e => .other (toString e)

/-- Makes a call, and hands its refusal back as a value. -/
def attemptCall {α : Type} (call : IO α) : IO (Except Fault α) := do
  try
    return .ok (← call)
  catch e =>
    return .error (.ofSystem e)

instance : FileSystem IO where
  isFile path := return (← attemptCall (IO.FS.readBinFile path)).toOption.isSome
  read path := attemptCall (IO.FS.readBinFile path)
  createDirs path := attemptCall (IO.FS.createDirAll path)
  write path bytes := attemptCall (IO.FS.writeBinFile path bytes)

def environment : IO Environment :=
  return {
    configPath := ← IO.getEnv "CHIP_8_CONF_PATH"
    configHome := ← IO.getEnv "XDG_CONFIG_HOME"
    home := ← IO.getEnv "HOME" }

/-- Eight words of the system's own randomness. -/
def randomKey : IO RandomKey := do
  let bytes ← IO.getRandomBytes 32
  return Vector.ofFn fun i : Fin 8 =>
    (List.range 4).foldl (fun w k => w * 256 + (bytes[4 * i.val + k]?.getD 0).toUInt32) 0

/-- Writes the log lines that are important enough. -/
def report (debug : Bool) (log : List LogLine) : IO Unit := do
  let least := if debug then LogLevel.trace else LogLevel.warn
  for line in log do
    if least.rank ≤ line.level.rank then IO.eprintln line.render

/-- Collects typed bytes until the input ends. -/
partial def collect (input : IO.FS.Stream) (keys : IO.Ref (List UInt8)) : IO Unit := do
  let bytes ← input.read 1
  if bytes.isEmpty then return
  keys.modify (· ++ bytes.toList)
  collect input keys

/-- Sends out what a session wrote on its console. A failure shows at the next writing. -/
def send (console : Console) : IO Console := do
  let output ← IO.getStdout
  let sent ← attemptCall do
    output.putStr (Command.textOf console.output.toList)
    output.flush
  let console := { console with output := #[] }
  match sent with
  | .ok () => return console
  | .error fault => return { console with fault := some (0, fault.message) }

/-- Sends out what a terminal wrote and logged. -/
def settleTerminal (debug : Bool) (t : Terminal) : IO Terminal := do
  report debug t.log.toList
  return { t with log := #[], console := ← send t.console }

/-- Turns until one is the last; turn `k` begins no earlier than it is due. -/
partial def follow (p : Plan) (debug : Bool) (keys : IO.Ref (List UInt8)) (start k : Nat)
    (r : Runner Terminal) : IO (Ending × Terminal) := do
  let due := start + k * p.turnTime
  let early := due - (← IO.monoNanosNow)
  if 0 < early then IO.sleep (UInt32.ofNat ((early + 999999) / 1000000))
  let now := (← IO.monoNanosNow) - start
  let bytes ← keys.modifyGet fun bytes => (bytes, [])
  let display := r.machine.display.await now
  let display := { display with console := display.console.type bytes }
  let (ending, r) := { r with machine := { r.machine with display } }.turn ⟨now, now⟩
  report debug r.log.toList
  let display ← settleTerminal debug r.machine.display
  match ending with
  | some ending => return (ending, display)
  | none =>
    let r := { r with machine := { r.machine with display }, log := #[] }
    follow p debug keys start (k + 1) r

/-- Plays a plan on a terminal and lets the terminal go. -/
def playOn (p : Plan) (debug : Bool) (t : Terminal) : IO (Except Failure Unit) := do
  let t ← settleTerminal debug t
  match p.blueprint.build { key := ← randomKey } t with
  | .error e =>
    let _ ← settleTerminal debug t.terminate
    return .error (.machine e)
  | .ok machine =>
    report debug (p.blueprint.log machine.size)
    let keys ← IO.mkRef []
    let _ ← IO.asTask (collect (← IO.getStdin) keys) Task.Priority.dedicated
    let (ending, t) ← follow p debug keys (← IO.monoNanosNow) 0 { machine }
    let _ ← settleTerminal debug t.terminate
    return Plan.result ending

/-- Makes a plan and plays it. -/
def session (args : Arguments) : IO (Except Failure Unit) := do
  let (plan, log) ← Plan.ofArguments (← environment) args
  report args.debug log
  match plan with
  | .error e => return .error e
  | .ok p =>
    match p.terminal.run {} with
    | ((.error reason, log), _) =>
      report args.debug log
      return .error (.console reason)
    | ((.ok t, log), _) =>
      report args.debug log
      playOn p args.debug t

/-- Tells the user how the session ended, and the system. -/
def conclude : Except Failure Unit → IO UInt32
  | .ok () => return 0
  | .error failure => do
    match failure with
    | .arguments e =>
      match e.answer? with
      | some text => IO.println text
      | none => IO.eprintln ("error: " ++ e.message)
    | failure => failure.errorLine?.forM fun line => IO.eprintln line
    return UInt32.ofNat failure.exitCode

end Chip8

def main (words : List String) : IO UInt32 := do
  match Chip8.Arguments.parse words with
  | .error e => Chip8.conclude (.error (.arguments e))
  | .ok args => Chip8.conclude (← Chip8.session args)
