import PacketBrowser.Server.Origin

/-!
# What the origin says about caching

The directives of an origin may stand in several `Cache-Control` lines, in any order and with
any spacing, and their numbers may be of any length. The probe reads the first of the lines,
if all its characters are visible, and numbers below 2⁶³; what stands elsewhere is overlooked.
So the origin is honoured exactly if what is overlooked does not matter.
-/

namespace PacketBrowser.Server

open Protocol Foundation

section Meaning

/-- The white space that may surround a directive. -/
def optionalWhite (c : Char) : Bool := c == ' ' || c == '\t'

/-- The directives of one line, in lower case. -/
def directivesOf (value : Bytes) : List Text :=
  ((Text.toAsciiLowercase (characters value)).splitOn ',').map fun piece =>
    (piece.dropWhile optionalWhite).rdropWhile optionalWhite

/-- The values of all `Cache-Control` lines. -/
def cacheControls (headers : List HeaderLine) : List Bytes :=
  (headers.filter (HeaderLine.called cacheControlName)).map HeaderLine.value

/-- The directives of all lines, in their order. -/
def directives (headers : List HeaderLine) : List Text :=
  (cacheControls headers).flatMap directivesOf

/-- Keeping the page is forbidden. -/
def Forbids (given : List Text) : Prop := noStore ∈ given ∨ privately ∈ given

instance (given : List Text) : Decidable (Forbids given) := inferInstanceAs (Decidable (_ ∨ _))

/-- The number of the first directive of this name. -/
def numberOf (key : Text) (given : List Text) : Option Nat :=
  given.findSome? fun directive => (Text.stripPrefix key directive).bind Decimal.digits

/-- The values of both numeric directives are unquoted decimal numbers. -/
def Numeric (given : List Text) : Prop :=
  ∀ directive ∈ given, ∀ key ∈ [sMaxageKey, maxAgeKey],
    (Text.stripPrefix key directive).all (fun number => (Decimal.digits number).isSome) = true

instance (given : List Text) : Decidable (Numeric given) :=
  inferInstanceAs (Decidable (∀ directive ∈ given, _))

variable (parseHttpDate : Text → Option UInt64)

/-- The seconds from `Date` to `Expires`. -/
def dated (headers : List HeaderLine) : Option Nat :=
  match ((getHeader headers expiresName).bind toStr).bind parseHttpDate,
    ((getHeader headers dateName).bind toStr).bind parseHttpDate with
  | some expires, some date =>
    if date ≤ expires then some (expires.toNat - date.toNat) else none
  | _, _ => none

/-- A number of seconds up to the cap; without one, the default. -/
def CcDefaults.capped (defaults : CcDefaults) : Option Nat → Int
  | some secs => min (secs : Int) defaults.maxMaxAge.toInt
  | none => defaults.defaultMaxAge.toInt

/-- The age that an origin means its pages to have. -/
def directedAge (headers : List HeaderLine) (defaults : CcDefaults) : Int :=
  let given := directives headers
  if Forbids given then -1
  else if noCache ∈ given then 0
  else
    match (numberOf sMaxageKey given).or (numberOf maxAgeKey given) with
    | some secs => defaults.capped (some secs)
    | none =>
      if cacheControls headers ≠ [] then defaults.capped none
      else defaults.capped (dated parseHttpDate headers)

/-- A probe that gets these header lines. -/
def Probed (network : Network) (url : Text) (config : ProbeConfig) (headers : List HeaderLine) :
    Prop :=
  ∃ client, network.probeClient config = some client ∧ client.headersOf url = some headers

/-- Whatever probe gets the header lines, it announces the age the origin means. -/
def Honoured (config : ProbeConfig) (headers : List HeaderLine) : Prop :=
  ∀ network url, Probed network url config headers →
    ∃ age, probeOriginCc parseHttpDate network url config = some age ∧
      age.toInt = directedAge parseHttpDate headers config.defaults

end Meaning

section Hearing

/-- The seconds that directives grant; with `no-cache` these are none. -/
def granted (given : List Text) : Option Nat :=
  if noCache ∈ given then some 0 else (numberOf sMaxageKey given).or (numberOf maxAgeKey given)

/-- A number that fits into 64 bits with a sign. -/
def fitting (number : Option Nat) : Option Nat :=
  number.filter fun secs => decide (secs < 9223372036854775808)

/-- The seconds that directives grant if greater numbers are overlooked. -/
def heardGrant (given : List Text) : Option Nat :=
  if noCache ∈ given then some 0
  else (fitting (numberOf sMaxageKey given)).or (fitting (numberOf maxAgeKey given))

/-- Two grants that make no difference: they are the same or both reach the cap, or one of
them makes up for the default. -/
def CcDefaults.Alike (defaults : CcDefaults) : Option Nat → Option Nat → Prop
  | some secs, some others => secs = others ∨
      defaults.maxMaxAge.toInt ≤ secs ∧ defaults.maxMaxAge.toInt ≤ others
  | some secs, none => min (secs : Int) defaults.maxMaxAge.toInt = defaults.defaultMaxAge.toInt
  | none, some secs => min (secs : Int) defaults.maxMaxAge.toInt = defaults.defaultMaxAge.toInt
  | none, none => True

variable (parseHttpDate : Text → Option UInt64)

/-- What is overlooked does not matter. The first line is visible, and forbids what any line
forbids; where none does, the seconds of its directives make no difference to those of all
the lines. A first line that is not visible leaves the dates in its place. -/
def Heeded (config : ProbeConfig) (headers : List HeaderLine) : Prop :=
  ∀ first ∈ (cacheControls headers).head?,
    (Forbids (directives headers) →
      first.all visibleByte = true ∧ Forbids (directivesOf first)) ∧
    (¬ Forbids (directives headers) → config.defaults.Alike
      (if first.all visibleByte then heardGrant (directivesOf first)
        else dated parseHttpDate headers)
      (granted (directives headers)))

end Hearing

section Reading

variable {value : Bytes} {given : List Text} {defaults : CcDefaults}

/-- In a visible value, the white space that Unicode knows is that of HTTP. -/
theorem visible_white (visible : value.all visibleByte = true) :
    ∀ c ∈ Text.toAsciiLowercase (characters value), Text.whitespace c = optionalWhite c := by
  have every : ∀ code < 256, visibleByte (UInt8.ofNat code) = true →
      Text.whitespace (Char.ofNat code).toLower = optionalWhite (Char.ofNat code).toLower := by
    decide +kernel
  intro c member
  obtain ⟨plain, inside, rfl⟩ := List.mem_map.mp member
  obtain ⟨b, within, rfl⟩ := List.mem_map.mp inside
  apply every b.toNat b.toNat_lt
  rw [UInt8.ofNat_toNat]
  exact List.all_eq_true.mp visible b within

/-- The tokens of the code are the directives of a visible line. -/
theorem tokens_eq (visible : value.all visibleByte = true) :
    ((Text.toAsciiLowercase (characters value)).splitOn ',').map Text.trim =
      directivesOf value := by
  apply List.map_congr_left
  intro piece member
  apply Text.trim_by
  intro c inside
  exact visible_white visible c (Text.mem_of_mem_splitOn member inside)

/-- The code reads the first number of a name, if it fits. -/
theorem findSeconds_eq (numeric : Numeric given) {key : Text}
    (known : key ∈ [sMaxageKey, maxAgeKey]) :
    findSeconds key given = (fitting (numberOf key given)).map Int.ofNat := by
  unfold findSeconds numberOf fitting
  induction given with
  | nil => rfl
  | cons directive others inductionHypothesis =>
    have number := numeric directive List.mem_cons_self key known
    have rest := inductionHypothesis fun other member =>
      numeric other (List.mem_cons_of_mem _ member)
    cases stripped : Text.stripPrefix key directive with
    | none => simpa [stripped] using rest
    | some text =>
      rw [stripped, Option.all_some] at number
      obtain ⟨secs, read⟩ := Option.isSome_iff_exists.mp number
      simp only [List.findSome?_cons, stripped, Option.bind_some, read,
        Decimal.parseSigned_digits _ read, Option.filter_some, decide_eq_true_eq]
      split
      · rfl
      · rfl

/-- The test for the two words is the one that forbids storing. -/
theorem any_forbids :
    (given.any fun token => token == noStore || token == privately) = true ↔ Forbids given := by
  simp only [List.any_eq_true, Bool.or_eq_true, beq_iff_eq, Forbids]
  constructor
  · rintro ⟨token, member, rfl | rfl⟩
    · exact Or.inl member
    · exact Or.inr member
  · rintro (member | member)
    · exact ⟨_, member, Or.inl rfl⟩
    · exact ⟨_, member, Or.inr rfl⟩

/-- The age of tokens, computed with numbers of any size. -/
def exactAge (tokens : List Text) (defaults : CcDefaults) : Int :=
  if Forbids tokens then -1
  else if noCache ∈ tokens then 0
  else ((findSeconds sMaxageKey tokens).or (findSeconds maxAgeKey tokens)).elim
    defaults.defaultMaxAge.toInt fun secs => max 0 (min secs defaults.maxMaxAge.toInt)

/-- A cap that is not negative keeps the code from panicking, and no conversion from losing
anything. -/
theorem parseDirectives_exact (cc : Text) (cap : 0 ≤ defaults.maxMaxAge.toInt) :
    ∃ age, parseDirectives cc defaults = some age ∧ age.toInt =
      exactAge (((Text.toAsciiLowercase cc).splitOn ',').map Text.trim) defaults := by
  unfold parseDirectives exactAge
  dsimp only
  generalize ((Text.toAsciiLowercase cc).splitOn ',').map Text.trim = tokens
  by_cases forbids : Forbids tokens
  · exact ⟨-1, if_pos (any_forbids.mpr forbids), (if_pos forbids).symm⟩
  · have asks : (tokens.any fun token => token == noCache) = true ↔ noCache ∈ tokens := by
      rw [List.any_beq', List.contains_iff_mem]
    rw [if_neg forbids, if_neg fun any => forbids (any_forbids.mp any)]
    by_cases asked : noCache ∈ tokens
    · exact ⟨0, if_pos (asks.mpr asked), (if_pos asked).symm⟩
    · rw [if_neg asked, if_neg fun any => asked (asks.mp any)]
      cases (findSeconds sMaxageKey tokens).or (findSeconds maxAgeKey tokens) with
      | none => exact ⟨_, rfl, rfl⟩
      | some secs =>
        have upper := defaults.maxMaxAge.toInt_lt
        refine ⟨_, if_pos cap, ?_⟩
        rw [Int32.toInt_ofInt_of_le (by omega) (by omega), Option.elim_some]

/-- The age of a visible line. -/
theorem parseDirectives_eq (visible : value.all visibleByte = true)
    (numeric : Numeric (directivesOf value)) (cap : 0 ≤ defaults.maxMaxAge.toInt) :
    ∃ age, parseDirectives (characters value) defaults = some age ∧
      age.toInt = if Forbids (directivesOf value) then -1
        else defaults.capped (heardGrant (directivesOf value)) := by
  obtain ⟨age, found, exact⟩ := parseDirectives_exact (characters value) cap
  refine ⟨age, found, ?_⟩
  rw [exact, tokens_eq visible, exactAge, heardGrant, findSeconds_eq numeric (by simp),
    findSeconds_eq numeric (by simp), ← Option.map_or]
  congr 1
  split
  · exact (Int.min_eq_left cap).symm
  · cases (fitting (numberOf sMaxageKey (directivesOf value))).or
      (fitting (numberOf maxAgeKey (directivesOf value))) with
    | none => rfl
    | some secs =>
      show max 0 (min (secs : Int) defaults.maxMaxAge.toInt) = min (secs : Int) _
      omega

/-- A cap that is not negative is the same in 64 bits. -/
theorem toNat_cap {cap : Int32} (positive : 0 ≤ cap.toInt) :
    (cap.toInt64.toUInt64.toNat : Int) = cap.toInt := by
  have wide : cap.toInt64.toInt = cap.toInt := Int32.toInt_toInt64 cap
  have bits : cap.toInt64.toUInt64.toNat = cap.toInt64.toBitVec.toNat := rfl
  have signed := BitVec.toInt_eq_toNat_cond cap.toInt64.toBitVec
  have same : cap.toInt64.toBitVec.toInt = cap.toInt64.toInt := rfl
  have small := cap.toInt64.toBitVec.isLt
  rw [bits]
  split at signed <;> omega

/-- Nothing is lost when a small number of seconds is cut to 32 bits. -/
theorem toInt_cut {secs : UInt64} (small : secs.toNat < 2147483648) :
    secs.toUInt32.toInt32.toInt = secs.toNat := by
  have low : secs.toUInt32.toInt32.toBitVec.toNat = secs.toNat % 4294967296 := by
    rw [UInt32.toBitVec_toInt32]
    exact UInt64.toNat_toUInt32 secs
  have value : secs.toUInt32.toInt32.toInt = secs.toUInt32.toInt32.toBitVec.toInt := rfl
  rw [value, BitVec.toInt_eq_toNat_of_lt]
  · omega
  · omega

/-- The age of dates. -/
theorem parseDates_eq (parseHttpDate : Text → Option UInt64) (headers : List HeaderLine)
    (cap : 0 ≤ defaults.maxMaxAge.toInt) :
    (parseDates parseHttpDate ((getHeader headers expiresName).bind toStr)
      ((getHeader headers dateName).bind toStr) defaults).toInt =
        defaults.capped (dated parseHttpDate headers) := by
  unfold parseDates dated
  cases ((getHeader headers expiresName).bind toStr).bind parseHttpDate with
  | none => rfl
  | some expires =>
    cases ((getHeader headers dateName).bind toStr).bind parseHttpDate with
    | none => rfl
    | some date =>
      dsimp only
      by_cases later : date ≤ expires
      · have difference := UInt64.toNat_sub_of_le expires date later
        have cut := toNat_cap cap
        have upper := defaults.maxMaxAge.toInt_lt
        have least : (min (expires - date) defaults.maxMaxAge.toInt64.toUInt64).toNat =
            min (expires - date).toNat defaults.maxMaxAge.toInt64.toUInt64.toNat :=
          UInt64.toNat_min _ _
        rw [if_pos later, if_pos later, toInt_cut (by omega), least, difference]
        show _ = min ((expires.toNat - date.toNat : Nat) : Int) defaults.maxMaxAge.toInt
        omega
      · rw [if_neg later, if_neg later]
        rfl

/-- The age of header lines: that of the first line, if it is visible, or else of the dates. -/
theorem ageOf_eq (parseHttpDate : Text → Option UInt64) (headers : List HeaderLine)
    (numeric : Numeric (directives headers)) (cap : 0 ≤ defaults.maxMaxAge.toInt) :
    ∃ age, ageOf parseHttpDate headers defaults = some age ∧
      age.toInt = ((cacheControls headers).head?.filter (List.all · visibleByte)).elim
        (defaults.capped (dated parseHttpDate headers)) fun first =>
          if Forbids (directivesOf first) then -1
          else defaults.capped (heardGrant (directivesOf first)) := by
  have found : getHeader headers cacheControlName = (cacheControls headers).head? := by
    rw [getHeader, cacheControls, List.head?_map, List.head?_filter]
  unfold ageOf
  rw [found]
  cases lines : (cacheControls headers).head? with
  | none => exact ⟨_, rfl, parseDates_eq parseHttpDate headers cap⟩
  | some first =>
    by_cases visible : first.all visibleByte = true
    · have inside : Numeric (directivesOf first) := fun directive member =>
        numeric directive (List.mem_flatMap.mpr ⟨first, List.mem_of_mem_head? lines, member⟩)
      rw [Option.filter_some, if_pos visible, Option.bind_some, toStr, if_pos visible]
      exact parseDirectives_eq visible inside cap
    · rw [Option.filter_some, if_neg visible, Option.bind_some, toStr, if_neg visible]
      exact ⟨_, rfl, parseDates_eq parseHttpDate headers cap⟩

end Reading

section Honouring

variable {parseHttpDate : Text → Option UInt64} {config : ProbeConfig} {headers : List HeaderLine}
variable {defaults : CcDefaults}

/-- An origin that answers every HEAD with these lines. -/
def answering (headers : List HeaderLine) : Network :=
  ⟨some 0, fun _ => true, fun _ _ => some ⟨fun _ => some ⟨200, headers⟩, fun _ => none⟩⟩

/-- Only the header lines matter. -/
theorem honoured_iff : Honoured parseHttpDate config headers ↔
    ∃ age, ageOf parseHttpDate headers config.defaults = some age ∧
      age.toInt = directedAge parseHttpDate headers config.defaults := by
  constructor
  · intro honoured
    exact honoured (answering headers) [] ⟨_, rfl, rfl⟩
  · rintro heard network url ⟨client, connected, answered⟩
    rw [probeOriginCc, connected, Option.bind_some, answered]
    exact heard

/-- What is granted is not negative where the default and the cap are not. -/
theorem capped_nonneg (default : 0 ≤ defaults.defaultMaxAge.toInt)
    (cap : 0 ≤ defaults.maxMaxAge.toInt) (grant : Option Nat) : 0 ≤ defaults.capped grant := by
  cases grant with
  | none => exact default
  | some secs =>
    show 0 ≤ min (secs : Int) defaults.maxMaxAge.toInt
    omega

/-- Grants that make no difference lead to the same age. -/
theorem alike_iff (grant other : Option Nat) :
    defaults.Alike grant other ↔ defaults.capped grant = defaults.capped other := by
  cases grant with
  | none =>
    cases other with
    | none => exact iff_of_true trivial rfl
    | some secs => exact eq_comm
  | some secs =>
    cases other with
    | none => exact Iff.rfl
    | some others =>
      show secs = others ∨ _ ∧ _ ↔ min (secs : Int) _ = min (others : Int) _
      omega

/-- What the origin means, in terms of what its directives grant. -/
theorem directedAge_eq (cap : 0 ≤ defaults.maxMaxAge.toInt) :
    directedAge parseHttpDate headers defaults =
      if Forbids (directives headers) then -1
      else if cacheControls headers = [] then defaults.capped (dated parseHttpDate headers)
      else defaults.capped (granted (directives headers)) := by
  unfold directedAge granted
  dsimp only
  by_cases forbids : Forbids (directives headers)
  · rw [if_pos forbids, if_pos forbids]
  · rw [if_neg forbids, if_neg forbids]
    by_cases none : cacheControls headers = []
    · have nothing : directives headers = [] := by rw [directives, none, List.flatMap_nil]
      rw [nothing, if_pos none, if_neg List.not_mem_nil]
      simp [numberOf, none]
    · rw [if_neg none]
      by_cases asked : noCache ∈ directives headers
      · rw [if_pos asked, if_pos asked]
        exact (Int.min_eq_left cap).symm
      · rw [if_neg asked, if_neg asked]
        cases (numberOf sMaxageKey (directives headers)).or
          (numberOf maxAgeKey (directives headers)) with
        | none => exact if_pos none
        | some secs => rfl

/-- The origin is honoured exactly if what the probe overlooks does not matter.

What the probe makes of the headers is compared with what the directives say: where there is no
line, where the first one forbids, and where it does not but another one may. -/
theorem directives_honoured_iff (parseHttpDate : Text → Option UInt64) (config : ProbeConfig)
    (headers : List HeaderLine) (numeric : Numeric (directives headers))
    (default : 0 ≤ config.defaultMaxAgeSeconds.toInt)
    (cap : config.defaultMaxAgeSeconds.toInt ≤ config.maxMaxAgeSeconds.toInt) :
    Honoured parseHttpDate config headers ↔ Heeded parseHttpDate config headers := by
  have positive : 0 ≤ config.defaults.maxMaxAge.toInt := Int.le_trans default cap
  obtain ⟨age, found, value⟩ := ageOf_eq parseHttpDate headers numeric positive
  have kept := capped_nonneg default positive
  have same : Honoured parseHttpDate config headers ↔
      age.toInt = directedAge parseHttpDate headers config.defaults := by
    rw [honoured_iff, found]
    simp
  rw [same, directedAge_eq positive]
  unfold Heeded
  cases lines : cacheControls headers with
  | nil =>
    rw [value, directives, lines]
    simp [Forbids]
  | cons first others =>
    have within : first.all visibleByte = true ∧ Forbids (directivesOf first) →
        Forbids (directives headers) := by
      have every : ∀ directive ∈ directivesOf first, directive ∈ directives headers :=
        fun directive member => List.mem_flatMap.mpr ⟨first, by simp [lines], member⟩
      exact fun forbids => Or.imp (every _) (every _) forbids.2
    have read : age.toInt =
        if first.all visibleByte = true ∧ Forbids (directivesOf first) then -1
        else config.defaults.capped (if first.all visibleByte then heardGrant (directivesOf first)
          else dated parseHttpDate headers) := by
      rw [value, lines, List.head?_cons, Option.filter_some]
      by_cases visible : first.all visibleByte = true
      · simp only [visible, if_true, Option.elim_some, true_and]
      · simp only [visible, Bool.false_eq_true, if_false, Option.elim_none, false_and]
    simp only [List.head?_cons, Option.mem_def, Option.some.injEq, forall_eq', alike_iff, read]
    by_cases heard : first.all visibleByte = true ∧ Forbids (directivesOf first)
    · simp [heard, within heard]
    · by_cases forbids : Forbids (directives headers)
      · have positive := kept (if first.all visibleByte then heardGrant (directivesOf first)
          else dated parseHttpDate headers)
        rw [if_neg heard, if_pos forbids]
        constructor
        · omega
        · exact fun heeded => absurd (heeded.1 forbids) heard
      · rw [if_neg heard]
        simp [forbids]

/-- Dates that nobody reads. -/
def noDates (_ : Text) : Option UInt64 := none

/-- The usual ages. -/
def sampleProbe : ProbeConfig := ⟨3000, 3600, 2592000⟩

/-- A header line with directives. -/
def cacheControlLine (value : String) : HeaderLine := ⟨"Cache-Control".toList, ascii value⟩

/-- Directives in any letters, on two lines. -/
theorem directives_honoured_iff_sample :
    Honoured noDates sampleProbe [cacheControlLine "Public , S-MaxAge=60", cacheControlLine "x"] ↔
      Heeded noDates sampleProbe
        [cacheControlLine "Public , S-MaxAge=60", cacheControlLine "x"] :=
  directives_honoured_iff noDates sampleProbe _ (by decide) (by decide) (by decide)

/-- A number beyond 64 bits is not capped, and a second line is not read. -/
theorem directives_overlooked :
    (Numeric (directives [cacheControlLine "max-age=9223372036854775808"]) ∧
      ¬ Honoured noDates sampleProbe [cacheControlLine "max-age=9223372036854775808"]) ∧
    Numeric (directives [cacheControlLine "public", cacheControlLine "no-store"]) ∧
      ¬ Honoured noDates sampleProbe [cacheControlLine "public", cacheControlLine "no-store"] := by
  have huge : ageOf noDates [cacheControlLine "max-age=9223372036854775808"]
      sampleProbe.defaults = some 3600 ∧
      directedAge noDates [cacheControlLine "max-age=9223372036854775808"]
        sampleProbe.defaults = 2592000 := by decide
  have second : ageOf noDates [cacheControlLine "public", cacheControlLine "no-store"]
      sampleProbe.defaults = some 3600 ∧
      directedAge noDates [cacheControlLine "public", cacheControlLine "no-store"]
        sampleProbe.defaults = -1 := by decide
  refine ⟨⟨by decide, ?_⟩, by decide, ?_⟩
  · rw [honoured_iff, huge.1, huge.2]
    rintro ⟨age, found, value⟩
    obtain rfl := Option.some.inj found
    exact absurd value (by decide)
  · rw [honoured_iff, second.1, second.2]
    rintro ⟨age, found, value⟩
    obtain rfl := Option.some.inj found
    exact absurd value (by decide)

end Honouring

end PacketBrowser.Server
