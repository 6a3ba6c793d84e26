import PacketBrowser.Foundation.Alone
import PacketBrowser.Foundation.Text
import PacketBrowser.Server.Reading
import PacketBrowser.Server.Requests

/-!
# What a session of the server does to the outside

A session reads lines and requests from its connection, writes to it, and asks the
browser, the filter, the probe of the origin, the compressor and the log. Reading is
determined by what arrives; everything else answers what it likes and takes the time
it likes. A write that fails may have sent a part of its bytes.
-/

namespace PacketBrowser.Server

open Protocol Foundation

/-- What an entry of the access log says of a request, or of the agreement. -/
inductive LogStatus where
  | ok
  | blocked
  | error
  | agreed
  deriving DecidableEq, Repr

/-- A line of the access log. Its time stamp is not modelled. -/
structure LogEntry where
  call : Text
  url : Text
  status : LogStatus
  reason : Option Text
  deriving DecidableEq, Repr

/-- Why there is no browser, or no page. -/
inductive BrowserError where
  | launchFailed (message : Text)
  | navigationFailed (message : Text)
  | extractionFailed (message : Text)
  | browserCrashed
  deriving DecidableEq, Repr

/-- The text shown for an error. -/
def BrowserError.display : BrowserError → Text
  | .launchFailed message => "Failed to launch browser: ".toList ++ message
  | .navigationFailed message => "Failed to navigate: ".toList ++ message
  | .extractionFailed message => "Failed to extract content: ".toList ++ message
  | .browserCrashed => "Browser crashed - please try again".toList

/-- Why the filter rejects a URL. -/
inductive UrlError where
  | blockedProtocol (scheme : Text)
  | blockedHost (host : Text)
  | unresolvableHost (host : Text)
  | invalidUrl
  deriving DecidableEq, Repr

/-- The text shown for an error. -/
def UrlError.display : UrlError → Text
  | .blockedProtocol scheme => "Blocked protocol: ".toList ++ scheme
  | .blockedHost host => "Blocked host: ".toList ++ host
  | .unresolvableHost host => "Host could not be resolved: ".toList ++ host
  | .invalidUrl => "Invalid URL".toList

/-- A running browser. -/
abbrev BrowserId := Nat

/-- The operations of a session. -/
inductive Op where
  | write (bytes : Bytes)
  | now
  | readLine (deadline : Nat)
  | readRequest (deadline : Nat)
  | log (entry : LogEntry)
  | newBrowser (callsign : Text)
  | validateUrl (url : Text)
  /-- The thread of the probe is spawned. It sends its own requests to the origin later, also
  when the session has gone on without waiting for it. -/
  | startProbe (url : Text)
  /-- The browser is told to load a page. -/
  | fetchPage (browser : BrowserId) (url : Text)
  /-- The session waits for the thread of the probe. -/
  | joinProbe
  | compress (data : Bytes) (quality : Nat)
  deriving DecidableEq

/-- An answer and the time it took. -/
structure Timed (α : Type) where
  result : α
  elapsed : Nat
  deriving DecidableEq

/-- How a write ends, and how many of its bytes were sent. -/
structure Written where
  result : Except IoError Unit
  sent : Nat
  deriving DecidableEq

/-- The type of answers of each operation. A probe that panicked has no result. -/
abbrev Answer : Op → Type
  | .write _ => Timed Written
  | .now => Nat
  | .readLine _ => Except IoError (Option Text)
  | .readRequest _ => Except IoError (Option Request)
  | .log _ => Timed (Except IoError Unit)
  | .newBrowser _ => Timed (Except BrowserError BrowserId)
  | .validateUrl _ => Timed (Except UrlError Unit)
  | .startProbe _ => Unit
  | .fetchPage _ _ => Timed (Except BrowserError Text)
  | .joinProbe => Timed (Option Int32)
  | .compress _ _ => Timed (Option Bytes)

/-- A connection: what is read from it, and what was sent on it. -/
structure World where
  reader : Reader
  output : Bytes

/-- Some time goes by. -/
def World.elapse (world : World) (time : Nat) : World :=
  { world with reader := { world.reader with now := world.reader.now + time } }

/-- The bytes a write sends. -/
def Written.bytes (written : Written) (bytes : Bytes) : Bytes := bytes.take written.sent

/-- A write that succeeds has sent everything. -/
def Written.fits (written : Written) (bytes : Bytes) : Bool :=
  match written.result with
  | .ok () => written.sent == bytes.length
  | .error _ => decide (written.sent ≤ bytes.length)

/-- The world can give this answer. -/
def World.gives (world : World) : (op : Op) → Answer op → Bool
  | .write bytes, answer => answer.result.fits bytes
  | .now, answer => answer == world.reader.now
  | .readLine deadline, answer => answer == (readBoundedLineUntil deadline world.reader).1
  | .readRequest deadline, answer => answer == (Server.readRequest deadline world.reader).1
  | _, _ => true

/-- The world after an answered operation. -/
def World.apply (world : World) : (op : Op) → Answer op → World
  | .write bytes, answer =>
    { world.elapse answer.elapsed with output := world.output ++ answer.result.bytes bytes }
  | .readLine deadline, _ =>
    { world with reader := (readBoundedLineUntil deadline world.reader).2 }
  | .readRequest deadline, _ =>
    { world with reader := (Server.readRequest deadline world.reader).2 }
  | .log _, answer => world.elapse answer.elapsed
  | .newBrowser _, answer => world.elapse answer.elapsed
  | .validateUrl _, answer => world.elapse answer.elapsed
  | .fetchPage _ _, answer => world.elapse answer.elapsed
  | .joinProbe, answer => world.elapse answer.elapsed
  | .compress _ _, answer => world.elapse answer.elapsed
  | .now, _ => world
  | .startProbe _, _ => world

/-- The world after an answered operation; none where the answer is impossible. -/
def exec (op : Op) (answer : Answer op) (world : World) : Option World :=
  if world.gives op answer then some (world.apply op answer) else none

/-- An operation occurs exactly if the world gives the answer, and then changes as it says. -/
theorem exec_iff {op : Op} {answer : Answer op} {world after : World} :
    exec op answer world = some after ↔
      world.gives op answer = true ∧ after = world.apply op answer := by
  unfold exec
  by_cases possible : world.gives op answer = true
  · simp only [possible, if_true, Option.some.injEq, true_and]
    exact eq_comm
  · simp [possible]

/-- An operation of the session and its answer. -/
abbrev SessionEvent := Event Unit Answer

/-- The world at a moment, and what has happened. -/
abbrev Moment := Snapshot World Unit Answer

/-- A connection on which nothing was sent or read yet. -/
def Moment.opening (reader : Reader) : Moment := ⟨⟨reader, []⟩, []⟩

/-- Program of a session. -/
abbrev Routine := Program Op Answer

/-- Program that may fail. -/
abbrev Attempt := ExceptT IoError Routine

/-- Perform one operation. -/
abbrev ask (op : Op) : Routine (Answer op) := Program.ask op

/-- Look at the clock. -/
def clock : Routine Nat := ask .now

/-- Write and flush. -/
def writeBytes (bytes : Bytes) : Attempt Unit := ExceptT.mk do
  let written ← ask (.write bytes)
  return written.result.result

/-- Write a text, or stop for an error. -/
def writeText (text : Text) : Attempt Unit := writeBytes (Utf8.encode text)

/-- Write, whether it succeeds or not. -/
def tryWriteText (text : Text) : Routine Unit := do
  let _ ← ask (.write (Utf8.encode text))
  return ()

/-- Append to the access log, whether it succeeds or not. -/
def logEntry (entry : LogEntry) : Routine Unit := do
  let _ ← ask (.log entry)
  return ()

end PacketBrowser.Server
