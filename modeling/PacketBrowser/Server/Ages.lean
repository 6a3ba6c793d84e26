import PacketBrowser.Server.Directives
import PacketBrowser.Server.Duplicates
import PacketBrowser.Server.Responses
import PacketBrowser.Server.Rounds

/-!
# The cap on ages

The operator sets two numbers in the environment: the age that is announced where the origin
says nothing useful, and a cap. What the origin says is capped, whichever way it is said; the
default is announced as it is, also where no probe succeeds or its thread panics. So the cap
is kept exactly if it is kept by the default.
-/

namespace PacketBrowser.Server

open Protocol Foundation Program Setting

section Environment

/-- The variables of the environment that are Unicode texts. -/
abbrev Environment := Text → Option Text

/-- A variable, or a default if it is missing or not of the right form. -/
def Environment.parse {α : Type} (env : Environment) (read : Text → Option α) (key : String)
    (default : α) : α := ((env key.toList).bind read).getD default

/-- A number of 32 bits from the environment, or the default. -/
def parseEnvU32 (env : Environment) (key : String) (default : Nat) : Nat :=
  env.parse (Decimal.parseUnsigned 4294967296) key default

/-- A number of 64 bits from the environment, or the default. -/
def parseEnvU64 (env : Environment) (key : String) (default : Nat) : Nat :=
  env.parse (Decimal.parseUnsigned 18446744073709551616) key default

/-- A number with a sign from the environment, or the default. -/
def parseEnvI32 (env : Environment) (key : String) (default : Int32) : Int32 :=
  env.parse (fun text => (Decimal.parseSigned 2147483648 text).map Int32.ofInt) key default

/-- A list with commas from the environment, or the default. -/
def parseEnvVec (env : Environment) (key : String) (default : List Text) : List Text :=
  env.parse (fun text => some (((text.splitOn ',').map Text.trim).filter (!·.isEmpty))) key default

/-- What a session reads of `Config::from_env`. -/
def Config.fromEnv (casing : Text.Casing) (env : Environment) : Config where
  allowedCallsigns := (parseEnvVec env "ALLOWED_CALLSIGNS" []).map casing.toUppercase
  idleTimeoutMinutes := UInt64.ofNat (parseEnvU64 env "IDLE_TIMEOUT_MINUTES" 10)
  brotliQuality := parseEnvU32 env "BROTLI_QUALITY" 11
  defaultMaxAgeSeconds := parseEnvI32 env "DEFAULT_MAX_AGE_SECONDS" 3600

/-- What the probe reads of `Config::from_env`. -/
def ProbeConfig.fromEnv (env : Environment) : ProbeConfig where
  originCcHeadTimeoutMs := parseEnvU64 env "ORIGIN_CC_HEAD_TIMEOUT_MS" 3000
  defaultMaxAgeSeconds := parseEnvI32 env "DEFAULT_MAX_AGE_SECONDS" 3600
  maxMaxAgeSeconds := parseEnvI32 env "MAX_MAX_AGE_SECONDS" 2592000

end Environment

section Ages

/-- An age the cap allows: never, or no more seconds than that. -/
def KeepsCap (cap : Int32) (age : Int) : Prop := age = -1 ∨ 0 ≤ age ∧ age ≤ cap.toInt

instance (cap : Int32) (age : Int) : Decidable (KeepsCap cap age) :=
  inferInstanceAs (Decidable (_ ∨ _))

variable (parseHttpDate : Text → Option UInt64)

/-- The age of header lines, computed with numbers of any size. -/
def exactAgeOf (headers : List HeaderLine) (defaults : CcDefaults) : Int :=
  ((getHeader headers cacheControlName).bind toStr).elim
    (defaults.capped (dated parseHttpDate headers)) fun cc =>
      exactAge (((Text.toAsciiLowercase cc).splitOn ',').map Text.trim) defaults

/-- No conversion loses anything, if the cap is not negative. -/
theorem ageOf_exact (headers : List HeaderLine) (defaults : CcDefaults)
    (cap : 0 ≤ defaults.maxMaxAge.toInt) :
    ∃ age, ageOf parseHttpDate headers defaults = some age ∧
      age.toInt = exactAgeOf parseHttpDate headers defaults := by
  unfold ageOf exactAgeOf
  cases (getHeader headers cacheControlName).bind toStr with
  | none => exact ⟨_, rfl, parseDates_eq parseHttpDate headers cap⟩
  | some cc => exact parseDirectives_exact cc cap

variable {parseHttpDate} {defaults : CcDefaults} {headers : List HeaderLine}
variable (cap : 0 ≤ defaults.maxMaxAge.toInt)
variable (default : KeepsCap defaults.maxMaxAge defaults.defaultMaxAge.toInt)

include cap default

/-- An age that was capped keeps the cap. -/
theorem capped_within (secs : Option Nat) : KeepsCap defaults.maxMaxAge (defaults.capped secs) := by
  cases secs with
  | none => exact default
  | some secs =>
    show KeepsCap _ (min (secs : Int) defaults.maxMaxAge.toInt)
    unfold KeepsCap
    omega

/-- Whatever the header lines are, a default within the cap keeps their age within it. -/
theorem exactAgeOf_within :
    KeepsCap defaults.maxMaxAge (exactAgeOf parseHttpDate headers defaults) := by
  unfold exactAgeOf
  cases (getHeader headers cacheControlName).bind toStr with
  | none => exact capped_within cap default _
  | some cc =>
    rw [Option.elim_some, exactAge]
    split
    · exact Or.inl rfl
    · split
      · exact Or.inr ⟨Int.le_refl 0, cap⟩
      · cases (findSeconds sMaxageKey _).or (findSeconds maxAgeKey _) with
        | none => exact default
        | some secs =>
          rw [Option.elim_some]
          unfold KeepsCap
          omega

end Ages

section Probes

variable {parseHttpDate : Text → Option UInt64} {config : ProbeConfig}

/-- What the probe announces is within the cap if the default is. -/
theorem probe_within {network : Network} {url : Text} {age : Int32}
    (cap : 0 ≤ config.maxMaxAgeSeconds.toInt)
    (default : KeepsCap config.maxMaxAgeSeconds config.defaultMaxAgeSeconds.toInt)
    (probed : probeOriginCc parseHttpDate network url config = some age) :
    KeepsCap config.maxMaxAgeSeconds age.toInt := by
  unfold probeOriginCc at probed
  cases found : (network.probeClient config).bind fun client => client.headersOf url with
  | none =>
    rw [found] at probed
    obtain rfl := Option.some.inj probed
    exact default
  | some headers =>
    rw [found] at probed
    obtain ⟨exact, computed, value⟩ := ageOf_exact parseHttpDate headers config.defaults cap
    obtain rfl := Option.some.inj (computed.symm.trans probed)
    rw [value]
    exact exactAgeOf_within cap default

end Probes

section Writing

/-- The bytes are no response that announces a page with an age beyond the cap. -/
def Harmless (cap : Int32) (bytes : Bytes) : Prop :=
  ∀ response : Response, response.Named → bytes = response.encode →
    response.status = .ok ∨ response.status = .notModified → KeepsCap cap response.maxAge.toInt

/-- Everything but a write of other bytes. -/
def Op.harmless (cap : Int32) : Op → Prop
  | .write bytes => Harmless cap bytes
  | _ => True

variable {cap : Int32}

/-- A text without the magic of a frame announces no age. -/
theorem harmless_text {bytes : Bytes} (unframed : ¬ Response.magic <:+: bytes) :
    Harmless cap bytes := by
  rintro response _ rfl
  have framed : Response.magic <+: response.encode := by
    rw [encode_split, Response.header, List.append_assoc]
    exact List.prefix_append _ _
  exact absurd framed.isInfix unframed

/-- A response without a page, or with an age that keeps the cap, is harmless. -/
theorem harmless_response {response : Response} (named : response.Named)
    (allowed : response.status = .ok ∨ response.status = .notModified →
      KeepsCap cap response.maxAge.toInt) : Harmless cap response.encode := by
  intro other named' same announced
  obtain ⟨status, age⟩ := encode_announces named named' same
  rw [← status] at announced
  rw [← age]
  exact allowed announced

/-- Errors announce no age. -/
theorem sendStatusResponse_harmless {status : Status} (message : Text)
    (error : status ≠ .ok ∧ status ≠ .notModified) :
    (sendStatusResponse status message).run.Only (Op.harmless cap) := by
  apply only_attempt _ (only_lift _ (only_ask _ trivial))
  intro compressed
  have harmless : ∀ payload, Harmless cap (Response.encode ⟨status, ['-'], -1, payload⟩) :=
    fun payload => harmless_response (Or.inl rfl) fun announced =>
      absurd announced (not_or.mpr error)
  exact only_bind _ (only_ask _ (harmless _)) fun _ => trivial

/-- Writing a plain text announces no age. -/
theorem writeText_harmless {text : Text} (plain : Utf8.encode text ∈ plainTexts) :
    (writeText text).run.Only (Op.harmless cap) :=
  only_bind _ (only_ask _ (harmless_text (plainTexts_unframed _ plain))) fun _ => trivial

/-- Writing a text without the magic announces no age. -/
theorem tryWriteText_harmless {text : Text} (unframed : ¬ Response.magic <:+: Utf8.encode text) :
    (tryWriteText text).Only (Op.harmless cap) :=
  only_bind _ (only_ask _ (harmless_text unframed)) fun _ => trivial

/-- Looking at the clock announces no age. -/
theorem touch_harmless (session : Session) : (touch session).Only (Op.harmless cap) :=
  only_bind _ (only_ask _ trivial) fun _ => trivial

/-- A new session announces no age. -/
theorem newSession_harmless (callsign : Text) :
    (newSession callsign).Only (Op.harmless cap) :=
  only_bind _ (only_ask _ trivial) fun _ => trivial

/-- Logging announces no age. -/
theorem logEntry_harmless (entry : LogEntry) : (logEntry entry).Only (Op.harmless cap) :=
  only_bind _ (only_ask _ trivial) fun _ => trivial

end Writing

section Handshake

variable (casing : Text.Casing) (config : Config) {cap : Int32}

/-- Waiting for the callsign announces no age. -/
theorem awaitCallsign_harmless (deadline : Nat) :
    (awaitCallsign casing config deadline).run.Only (Op.harmless cap) := by
  apply only_attempt _ (only_ask _ trivial)
  rintro (_ | line)
  · trivial
  · show Only _ (checkCallsign casing config line).run
    unfold checkCallsign
    cases validateCallsignWithAllowlist casing (Text.trim line) config.allowedCallsigns with
    | some callsign => trivial
    | none =>
      have plain : Utf8.encode invalidCallsignNotice ∈ plainTexts := by simp [plainTexts]
      exact only_lift _ (only_bind _ (tryWriteText_harmless (plainTexts_unframed _ plain))
        fun _ => trivial)

/-- Waiting for the consent announces no age. -/
theorem awaitInput_harmless (deadline : Nat) (callsign : Text) :
    (awaitInput casing deadline callsign).run.Only (Op.harmless cap) := by
  apply only_loop
  intro _
  apply only_bind _ (only_ask _ trivial)
  rintro (_ | _ | line)
  · trivial
  · trivial
  · trivial

/-- The handshake announces no age. -/
theorem authenticate_harmless : (authenticate casing config).run.Only (Op.harmless cap) := by
  apply only_attempt _ (writeText_harmless (by simp [plainTexts]))
  intro _
  apply only_attempt _ (only_lift _ (only_ask _ trivial))
  intro now
  apply only_attempt _ (awaitCallsign_harmless casing config _)
  rintro (_ | callsign)
  · trivial
  · apply only_attempt _ (only_lift _ (newSession_harmless callsign))
    intro session
    apply only_attempt _ (writeText_harmless (by simp [plainTexts]))
    intro _
    apply only_attempt _ (awaitInput_harmless casing _ _)
    rintro (_ | input)
    · trivial
    · show Only _ (checkAgreement casing session input).run
      unfold checkAgreement
      split
      · exact only_attempt _ (writeText_harmless (by simp [plainTexts])) fun _ => trivial
      · exact only_lift _ (only_bind _ (touch_harmless _) fun _ => trivial)

end Handshake

section Loading

variable (callsign : Text) {cap : Int32}

/-- A refusal announces no age. -/
theorem rejectUrl_harmless (url : Text) (err : UrlError) :
    (rejectUrl callsign url err).run.Only (Op.harmless cap) := by
  apply only_attempt _ (only_lift _ (logEntry_harmless _))
  intro _
  apply sendStatusResponse_harmless
  cases err <;> simp [UrlError.statuses]

/-- Starting a browser announces no age. -/
theorem restartBrowser_harmless : (restartBrowser callsign).Only (Op.harmless cap) := by
  apply only_bind _ (only_ask _ trivial)
  intro created
  cases created.result with
  | ok browser => trivial
  | error err => exact only_bind _ (sendStatusResponse_harmless _ (by simp)) fun _ => trivial

/-- Loading a page announces no age. -/
theorem tryFetch_harmless (url : Text) (browser : Option BrowserId) :
    (tryFetch callsign url browser).Only (Op.harmless cap) := by
  cases browser with
  | none => exact restartBrowser_harmless callsign
  | some browser =>
    apply only_bind _ (only_ask _ trivial)
    intro fetched
    have failed : ∀ err : BrowserError, Only (Op.harmless cap) (do
        logEntry ⟨callsign, url, .error, some err.display⟩
        let sent ← (sendErrorResponse "Failed to load page".toList).run
        return (.inr (.answered sent, some browser) :
          Option BrowserId ⊕ Fetched × Option BrowserId)) := by
      intro err
      apply only_bind _ (logEntry_harmless _)
      intro _
      exact only_bind _ (sendStatusResponse_harmless _ (by simp)) fun _ => trivial
    rcases fetched.result with err | html
    · cases err with
      | browserCrashed => exact restartBrowser_harmless callsign
      | _ => exact failed _
    · trivial

/-- With an age within the cap, a page is answered harmlessly. -/
theorem answerPage_harmless {etag : Text} {maxAge : Int32} (within : KeepsCap cap maxAge.toInt)
    (named : etag.length = 16 ∧ etag.all base64Url) (status : Status) (payload : Bytes) :
    (writeBytes (Response.encode ⟨status, etag, maxAge, payload⟩)).run.Only
      (Op.harmless cap) := by
  have harmless : Harmless cap (Response.encode ⟨status, etag, maxAge, payload⟩) :=
    harmless_response (Or.inr named) fun _ => within
  exact only_bind _ (only_ask _ harmless) fun _ => trivial

end Loading

section Runs

variable (parseHttpDate : Text → Option UInt64) (probe : ProbeConfig)

/-- A probe that is waited for has ended as some probe does, or its thread has panicked. -/
def probes : (op : Op) → Answer op → Prop
  | .joinProbe, answer => answer.result = none ∨
      ∃ network url, answer.result = probeOriginCc parseHttpDate network url probe
  | _, _ => True

/-- Every run whose probes end as probes do, with harmless writes only. -/
def ageing : Setting World Unit Answer where
  exec := exec
  meets := fun _ event => probes parseHttpDate probe event.op event.answer
  inv := fun now => ∀ event ∈ now.history, event.op.harmless probe.maxMaxAgeSeconds

variable {parseHttpDate} {probe}

/-- A harmless step keeps the invariant. -/
theorem harmless_step {op : Op} {answer : Answer op} {now later : Moment}
    (harmless : op.harmless probe.maxMaxAgeSeconds)
    (moves : (ageing parseHttpDate probe).Moves now ⟨(), op, answer⟩ later) :
    (ageing parseHttpDate probe).inv later := by
  intro event member
  rw [moves.occurs.2] at member
  rcases List.mem_cons.mp member with rfl | earlier
  · exact harmless
  · exact moves.inv event earlier

/-- A harmless part keeps the invariant. -/
theorem harmless_safe {α : Type} {program : Routine α}
    (only : program.Only (Op.harmless probe.maxMaxAgeSeconds)) :
    (ageing parseHttpDate probe).Triple () (fun _ => True) program fun _ _ => True :=
  triple_only (stable_alone _) only
    fun _ harmless _ _ _ _ moves => ⟨harmless_step harmless moves, trivial⟩

variable {sha256 : Bytes → Bytes} {config : Config}
variable (digest : ∀ data, (sha256 data).length = 32)
variable (same : config.defaultMaxAgeSeconds = probe.defaultMaxAgeSeconds)
variable (cap : 0 ≤ probe.maxMaxAgeSeconds.toInt)
variable (default : KeepsCap probe.maxMaxAgeSeconds probe.defaultMaxAgeSeconds.toInt)

/-- The age of a page is within the cap if the default is, also where the probe panicked. -/
theorem joined_within {answer : Answer .joinProbe} (cap : 0 ≤ probe.maxMaxAgeSeconds.toInt)
    (default : KeepsCap probe.maxMaxAgeSeconds probe.defaultMaxAgeSeconds.toInt)
    (told : probes parseHttpDate probe .joinProbe answer) :
    KeepsCap probe.maxMaxAgeSeconds (answer.result.getD probe.defaultMaxAgeSeconds).toInt := by
  rcases told with panicked | ⟨network, url, ended⟩
  · rw [panicked]
    exact default
  · rw [ended]
    cases found : probeOriginCc parseHttpDate network url probe with
    | none => exact default
    | some age => exact probe_within cap default found

include digest same cap default

/-- A page is sent with an age that keeps the cap, as the probe did. -/
theorem sendPage_safe (callsign url : Text) (ifNoneMatch : Option Text) (html : Text) :
    (ageing parseHttpDate probe).Triple () (fun _ => True)
      (sendPage sha256 config callsign url ifNoneMatch html).run fun _ _ => True := by
  apply triple_attempt (fun probed _ => KeepsCap probe.maxMaxAgeSeconds
    (Option.getD (Timed.result probed) config.defaultMaxAgeSeconds).toInt) fun _ => stable_alone _
  · apply triple_lift (fun _ => stable_alone _)
    apply triple_ask (stable_alone _) (fun _ => stable_alone _)
    intro now answer later _ moves
    have permitted : (Op.joinProbe).harmless probe.maxMaxAgeSeconds := trivial
    have within := joined_within cap default moves.met
    rw [← same] at within
    exact ⟨harmless_step permitted moves, within⟩
  · intro probed now within
    have named := sanitizedHtmlEtag_shape digest html
    have answers := answerPage_harmless within named
    refine harmless_safe ?_ now trivial
    apply only_attempt _ (only_lift _ (logEntry_harmless _))
    intro _
    split
    · exact answers _ _
    · apply only_attempt _ (only_lift _ (only_ask _ trivial))
      intro compressed
      cases compressed.result with
      | none => exact sendStatusResponse_harmless _ (by simp)
      | some compressed => exact answers _ _

/-- A request keeps the invariant. -/
theorem handleRequest_safe (callsign : Text) (browser : Option BrowserId) (url : Text)
    (ifNoneMatch : Option Text) : (ageing parseHttpDate probe).Triple () (fun _ => True)
      (handleRequest sha256 config callsign browser url ifNoneMatch) fun _ _ => True := by
  apply triple_bind _ (harmless_safe (only_ask _ (by exact trivial)))
  intro valid
  cases valid.result with
  | error err =>
    exact harmless_safe (only_bind _ (rejectUrl_harmless callsign url err) fun _ => trivial)
  | ok _ =>
    apply triple_bind _ (harmless_safe (only_ask _ (by exact trivial)))
    intro _
    apply triple_bind _ (harmless_safe (only_loop _ (tryFetch_harmless callsign url) browser))
    rintro ⟨html | sent, browser⟩
    · apply triple_bind _ (sendPage_safe digest same cap default callsign url ifNoneMatch html)
      exact fun _ => triple_done (stable_alone _) fun _ => id
    · exact triple_done (stable_alone _) fun _ => id

/-- A round keeps the invariant. -/
theorem serveNext_safe (state : Session × Option BrowserId) :
    (ageing parseHttpDate probe).Triple () (fun _ => True) (serveNext sha256 config state)
      fun _ _ => True := by
  apply triple_bind _ (harmless_safe (only_ask _ (by exact trivial)))
  have timedOut : ¬ Response.magic <:+: Utf8.encode timedOutNotice := by
    rw [← Search.occurs_iff, Bool.not_eq_true]
    decide
  rintro (err | _ | request)
  · apply harmless_safe
    show Only _ (ite _ _ _)
    split
    · exact only_bind _ (tryWriteText_harmless timedOut) fun _ => trivial
    · trivial
  · exact harmless_safe (by trivial)
  · apply triple_bind _ (harmless_safe (touch_harmless _))
    intro session
    cases request with
    | get url ifNoneMatch =>
      apply triple_bind _ (handleRequest_safe digest same cap default _ _ url ifNoneMatch)
      exact fun _ => harmless_safe (only_bind _ (touch_harmless _) fun _ => trivial)
    | post url body =>
      apply harmless_safe
      apply only_bind _ (sendStatusResponse_harmless _ (by simp))
      rintro (_ | _)
      · trivial
      · exact only_bind _ (touch_harmless _) fun _ => trivial

/-- A session keeps the invariant. -/
theorem handleConnection_safe (casing : Text.Casing) :
    (ageing parseHttpDate probe).Triple () (fun _ => True)
      (handleConnection casing sha256 config).run fun _ _ => True := by
  apply triple_attempt (fun _ _ => True) (fun _ => stable_alone _)
  · apply (harmless_safe (authenticate_harmless casing config)).consequence (fun _ => id)
    rintro (_ | _) _ _ <;> trivial
  · rintro (_ | session)
    · exact harmless_safe (by trivial)
    · show (ageing parseHttpDate probe).Triple () _ (serve sha256 config session).run _
      apply triple_attempt (fun _ _ => True) (fun _ => stable_alone _)
      · apply triple_lift (fun _ => stable_alone _)
        exact harmless_safe (logEntry_harmless _)
      · intro _
        apply triple_attempt (fun _ _ => True) (fun _ => stable_alone _)
        · apply triple_lift (fun _ => stable_alone _)
          exact harmless_safe (only_ask _ (by exact trivial))
        · intro created
          cases created.result with
          | error err => exact harmless_safe (sendStatusResponse_harmless _ (by simp))
          | ok browser =>
            apply triple_loop (fun _ _ => True) (fun _ => stable_alone _) fun _ => stable_alone _
            intro state
            apply (serveNext_safe digest same cap default state).consequence (fun _ => id)
            rintro (_ | _) _ _ <;> trivial

end Runs

section Default

/-! The default is announced where the browser has no proxy to send the probe through. -/

variable (defaults : CcDefaults)

/-- An environment that sets the two ages, and nothing else. -/
def agesEnv : Environment := fun key =>
  if key = "DEFAULT_MAX_AGE_SECONDS".toList then
    some (Decimal.printInt defaults.defaultMaxAge.toInt)
  else if key = "MAX_MAX_AGE_SECONDS".toList then
    some (Decimal.printInt defaults.maxMaxAge.toInt)
  else none

/-- A number that was printed into the environment is read back. -/
theorem parseEnvI32_print {env : Environment} {key : String} {age : Int32} (default : Int32)
    (set : env key.toList = some (Decimal.printInt age.toInt)) :
    parseEnvI32 env key default = age := by
  have read := Decimal.parse_print_signed 2147483648 age.toInt age.le_toInt age.toInt_lt
  rw [parseEnvI32, Environment.parse, set, Option.bind_some, read, Option.map_some,
    Option.getD_some, Int32.ofInt_toInt]

/-- The probe is given the ages of this environment. -/
theorem agesEnv_probe : (ProbeConfig.fromEnv (agesEnv defaults)).defaults = defaults := by
  rw [ProbeConfig.defaults, ProbeConfig.fromEnv, parseEnvI32_print 3600 (by rfl),
    parseEnvI32_print 2592000 (by rfl)]

/-- The session is given the ages of this environment. -/
theorem agesEnv_config (casing : Text.Casing) :
    Config.fromEnv casing (agesEnv defaults) = ⟨[], 10, 11, defaults.defaultMaxAge⟩ := by
  rw [Config.fromEnv, parseEnvI32_print 3600 (by rfl)]
  rfl

/-- A hash of zeros. -/
def zeroHash (_ : Bytes) : Bytes := List.replicate 32 0

/-- An operator who agrees and asks for a page. -/
def visitReader : Reader := ⟨ascii "N0CALL\nAGREE\nGET a\n", [⟨0, .closed⟩], 0⟩

/-- The handshake is passed, and the request is next. -/
theorem visit_agrees : ∃ start, Leads exec (fun _ _ => True)
    (authenticate .onlyAscii ⟨[], 10, 11, defaults.defaultMaxAge⟩).run
      (Moment.opening visitReader) start (.done (.ok (some agreedSession))) ∧
    start.history = (handshakeEvents.map eventOf).reverse ∧
    (readRequest 600000 start.world.reader).1 = .ok (some (.get ['a'] none)) := by
  have followed : ((authenticate .onlyAscii sampleConfig).run.follow exec 2
      (Moment.opening visitReader) handshakeEvents).any (fun agreed =>
        agreed.2.value? == some (.ok (some agreedSession)) &&
          (readRequest 600000 agreed.1.world.reader).1 == .ok (some (.get ['a'] none))) = true := by
    decide
  obtain ⟨⟨start, waiting⟩, run, checked⟩ := (Option.any_eq_true _ _).mp followed
  obtain ⟨agreed, reads⟩ := Bool.and_eq_true_iff.mp checked
  obtain ⟨leads, history⟩ := follow_leads 2 handshakeEvents (fun _ _ => trivial) run
  have value := beq_iff_eq.mp agreed
  obtain rfl : waiting = .done (.ok (some agreedSession)) := by
    cases waiting with
    | done result => exact congrArg _ (Option.some.inj value)
    | perform op next => exact absurd value (by simp [Program.value?])
    | iterate body state next => exact absurd value (by simp [Program.value?])
  rw [Moment.opening, List.append_nil] at history
  exact ⟨start, leads, history, beq_iff_eq.mp reads⟩

/-- One more operation, answered like this. -/
theorem answered {α : Type} {program left : Routine α} {start now : Moment}
    {op : Op} {next : Answer op → Routine α}
    (leads : Leads exec (fun _ _ => True) program start now left)
    (entries : Nat) (exposed : left.expose entries = .perform op next) (answer : Answer op)
    (given : now.world.gives op answer = true) :
    Leads exec (fun _ _ => True) program start
      ⟨now.world.apply op answer, ⟨(), op, answer⟩ :: now.history⟩ (next answer) :=
  leads.step (performs_of_expose entries _ _ _ exposed) (occurs_of given) trivial

/-- The clock may be looked at. -/
theorem gives_now (world : World) : world.gives .now world.reader.now = true :=
  beq_self_eq_true _

/-- All bytes may be sent. -/
theorem gives_allSent (world : World) (bytes : Bytes) :
    world.gives (.write bytes) (allSent bytes) = true := beq_self_eq_true _

/-- What the page is answered with. -/
def visitResponse : Response := ⟨.ok, sanitizedHtmlEtag zeroHash [], defaults.defaultMaxAge, []⟩

/-- The page is loaded, and announced with the default. -/
theorem visit_served (parseHttpDate : Text → Option UInt64) {start : Moment}
    (reads : (readRequest 600000 start.world.reader).1 = .ok (some (.get ['a'] none))) :
    ∃ now left events, Leads exec (fun _ _ => True)
      (serve zeroHash ⟨[], 10, 11, defaults.defaultMaxAge⟩ agreedSession).run start now left ∧
      now.history = events ++ start.history ∧
      (∀ event ∈ events, probes parseHttpDate (ProbeConfig.fromEnv (agesEnv defaults))
        event.op event.answer) ∧
      ⟨(), .write (visitResponse defaults).encode, allSent (visitResponse defaults).encode⟩ ∈
        events := by
  have begun : Leads exec (fun _ _ => True)
      (serve zeroHash ⟨[], 10, 11, defaults.defaultMaxAge⟩ agreedSession).run start start
      (serve zeroHash ⟨[], 10, 11, defaults.defaultMaxAge⟩ agreedSession).run := .start
  have logged := answered begun 1 rfl (by exact ⟨.ok (), 0⟩) rfl
  have created := answered logged 1 rfl (by exact ⟨.ok 0, 0⟩) rfl
  have due : agreedSession.lastActivity +
      Config.idleTimeout ⟨[], 10, 11, defaults.defaultMaxAge⟩ = 600000 := by
    show 0 + seconds ((10 : UInt64) * 60).toNat = 600000
    decide
  rw [← due] at reads
  have read := answered created 1 rfl (by exact .ok (some (.get ['a'] none)))
    (beq_iff_eq.mpr reads.symm)
  have touched := answered read 1 rfl _ (gives_now _)
  have valid := answered touched 1 rfl (by exact ⟨.ok (), 0⟩) rfl
  have probing := answered valid 1 rfl (by exact ()) rfl
  have fetched := answered probing 2 rfl (by exact ⟨.ok [], 0⟩) rfl
  have joined := answered fetched 2 rfl (by exact ⟨some defaults.defaultMaxAge, 0⟩) rfl
  have noted := answered joined 2 rfl (by exact ⟨.ok (), 0⟩) rfl
  have compressed := answered noted 2 rfl (by exact ⟨some [], 0⟩) rfl
  have written := answered compressed 2 rfl _ (gives_allSent _ _)
  have probed : ∃ network url, some defaults.defaultMaxAge =
      probeOriginCc parseHttpDate network url (ProbeConfig.fromEnv (agesEnv defaults)) := by
    refine ⟨⟨none, fun _ => false, fun _ _ => none⟩, [], ?_⟩
    have same := congrArg CcDefaults.defaultMaxAge (agesEnv_probe defaults)
    exact congrArg some same.symm
  refine ⟨_, _, [_, _, _, _, _, _, _, _, _, _, _], written, rfl, ?_, List.mem_cons_self⟩
  intro event member
  simp only [List.mem_cons, List.not_mem_nil, or_false] at member
  rcases member with rfl | rfl | rfl | rfl | rfl | rfl | rfl | rfl | rfl | rfl | rfl
  · trivial
  · trivial
  · trivial
  · exact Or.inr probed
  all_goals trivial

end Default

section Capping

/-- With these ages in the environment, whatever else it sets: no number is lost in computing
an age, and no response of a session, whatever the probes find and however they end, announces
an age beyond the cap. A SHA-256 hash has 32 bytes. -/
def AgesCapped (defaults : CcDefaults) : Prop :=
  ∀ casing sha256 parseHttpDate env, (∀ data, (sha256 data).length = 32) →
    (ProbeConfig.fromEnv env).defaults = defaults →
    (∀ headers, ∃ age, ageOf parseHttpDate headers defaults = some age ∧
      age.toInt = exactAgeOf parseHttpDate headers defaults) ∧
    ∀ reader now left, Leads exec
      (fun _ event => probes parseHttpDate (ProbeConfig.fromEnv env) event.op event.answer)
      (handleConnection casing sha256 (Config.fromEnv casing env)).run (Moment.opening reader)
      now left → ∀ event ∈ now.history, event.op.harmless defaults.maxMaxAge

variable {defaults : CcDefaults}

/-- Where the default keeps the cap, every age does. -/
theorem ages_capped (cap : 0 ≤ defaults.maxMaxAge.toInt)
    (default : KeepsCap defaults.maxMaxAge defaults.defaultMaxAge.toInt) : AgesCapped defaults := by
  rintro casing sha256 parseHttpDate env digest rfl
  constructor
  · exact fun headers => ageOf_exact _ headers _ cap
  · intro reader now left leads
    have safe : (ageing parseHttpDate (ProbeConfig.fromEnv env)).Triple () (fun _ => True)
        (handleConnection casing sha256 (Config.fromEnv casing env)).run fun _ _ => True :=
      handleConnection_safe digest rfl cap default casing
    have start : (ageing parseHttpDate (ProbeConfig.fromEnv env)).inv (Moment.opening reader) :=
      fun event member => absurd member List.not_mem_nil
    exact (alone leads start (safe _ trivial)).1

/-- The default is announced in some run. -/
theorem AgesCapped.default (capped : AgesCapped defaults) :
    KeepsCap defaults.maxMaxAge defaults.defaultMaxAge.toInt := by
  obtain ⟨start, agreed, before, reads⟩ := visit_agrees defaults
  obtain ⟨now, left, events, served, behind, probed, member⟩ :=
    visit_served defaults noDates reads
  have whole : Leads exec (fun _ _ => True) (handleConnection .onlyAscii zeroHash
      ⟨[], 10, 11, defaults.defaultMaxAge⟩).run (Moment.opening visitReader) now left :=
    (agreed.bind _).trans served
  have every : Throughout (fun event _ => probes noDates (ProbeConfig.fromEnv (agesEnv defaults))
      event.op event.answer) now.history := by
    apply throughout_iff.mpr
    intro later event earlier split
    have inside : event ∈ now.history := by simp [split]
    rw [behind, before] at inside
    rcases List.mem_append.mp inside with serving | agreeing
    · exact probed event serving
    · obtain ⟨answered, among, rfl⟩ := List.mem_map.mp (List.mem_reverse.mp agreeing)
      simp only [handshakeEvents, List.mem_cons, List.not_mem_nil, or_false] at among
      rcases among with rfl | rfl | rfl | rfl | rfl | rfl | rfl <;> trivial
  rw [← agesEnv_config defaults .onlyAscii] at whole
  obtain ⟨_, harmless⟩ := capped .onlyAscii zeroHash noDates (agesEnv defaults) (fun _ => rfl)
    (agesEnv_probe defaults)
  have announced := harmless visitReader now left
    ((whole.throughout every).mono fun _ _ met => met.2) _
    (behind ▸ List.mem_append_left _ member)
  have named : (visitResponse defaults).Named :=
    Or.inr (sanitizedHtmlEtag_shape (fun _ => rfl) [])
  exact announced _ named rfl (Or.inl rfl)

/-- The cap is kept exactly if the default keeps it.

Only the default is handed on without the cap, and some run announces it. Every other age goes
through the cap, which each routine of the session keeps. -/
theorem ages_capped_iff (defaults : CcDefaults) (cap : 0 ≤ defaults.maxMaxAge.toInt) :
    AgesCapped defaults ↔ KeepsCap defaults.maxMaxAge defaults.defaultMaxAge.toInt :=
  ⟨AgesCapped.default, ages_capped cap⟩

/-- The condition for the usual ages. -/
theorem ages_capped_iff_sample :
    AgesCapped ⟨3600, 2592000⟩ ↔ KeepsCap 2592000 (3600 : Int32).toInt :=
  ages_capped_iff ⟨3600, 2592000⟩ (by decide)

/-- A default beyond the cap is announced. -/
theorem ages_uncapped : ¬ ∀ defaults : CcDefaults, 0 ≤ defaults.maxMaxAge.toInt →
    AgesCapped defaults := by
  intro every
  have within := (every ⟨7200, 3600⟩ (by decide)).default
  exact absurd within (by decide)

end Capping

end PacketBrowser.Server
