import GatewayClient.Config.Environment
import GatewayClient.Proofs.Double.NotANumber
import Mathlib.Data.List.DropRight

/-!
# What an accepted configuration keeps

The base URL is checked as it was given, and kept without the slashes at its end. The timeout is
refused where it is not above zero, as far as it compares.

**What holds of a configuration afterwards** (`ConfigOrigin.validity_law`), wherever it comes from.
It has no slash at its end and a known path scheme. It keeps the scheme of its URL, and is made
again of its own fields, exactly if the URL that was given goes on behind its scheme
(`Config.isHttpUrl_trimSlashes`); its timeout is above zero exactly if it is a number. Where the URL
is a scheme and slashes, what is left of it is no longer accepted (`Config.scheme_lost`).
-/

set_option autoImplicit false

namespace GatewayClient

/-- What is not at or below zero is above it, unless it is no number. -/
theorem Double.zero_lt_iff_of_not_le {x : Float} (above : ¬ x ≤ 0.0) :
    0.0 < x ↔ x.isNaN = false := by
  refine ⟨fun positive => (isNaN_of_lt positive).2, fun number => ?_⟩
  exact not_imp_comm.mp (le_of_not_lt rfl number) above

variable {τ : Type} [TimeScale τ]

namespace Config

/-! ## Slashes at the end of a URL -/

section Trimming

/-- The URL has one of the schemes that a gateway is reached by. -/
def HasScheme (url : String) : Prop :=
  ∃ scheme ∈ ["http://", "https://"], ∃ rest, url = scheme ++ rest

/-- Something other than slashes follows the scheme of the URL. -/
def GoesOn (url : String) : Prop :=
  ∃ scheme ∈ ["http://", "https://"], ∃ rest, url = scheme ++ rest ∧ ∃ c ∈ rest.toList, c ≠ '/'

/-- A character is a slash. -/
abbrev isSlash (c : Char) : Bool := c == '/'

variable {url : String} {scheme rest : List Char}

/-- The slashes at the end of the list of characters are dropped. -/
theorem toList_trimSlashes : (trimSlashes url).toList = url.toList.rdropWhile isSlash :=
  String.toList_ofList

/-- What has lost the slashes at its end has none to lose. -/
theorem trimSlashes_trimSlashes : trimSlashes (trimSlashes url) = trimSlashes url := by
  rw [← String.toList_inj, toList_trimSlashes, toList_trimSlashes, List.rdropWhile_idempotent]

/-- What has lost the slashes at its end does not end with one. -/
theorem trimSlashes_ne_append_slash (rest : String) : trimSlashes url ≠ rest ++ "/" := by
  intro slashed
  have last : url.toList.rdropWhile isSlash = rest.toList ++ ['/'] := by
    rw [← toList_trimSlashes, slashed, String.toList_append]
    rfl
  refine List.rdropWhile_last_not isSlash url.toList ?_ ?_
  · simp [last]
  · simp [last]

/-- What is in front of something else than slashes stays. -/
theorem rdropWhile_append_of_mem {c : Char} (mem : c ∈ rest) (other : c ≠ '/') :
    (scheme ++ rest).rdropWhile isSlash = scheme ++ rest.rdropWhile isSlash := by
  have left : ¬ (rest.reverse.dropWhile isSlash).isEmpty = true := by
    rw [List.isEmpty_iff, List.dropWhile_eq_nil_iff]
    intro slashes
    exact other (eq_of_beq (slashes c (List.mem_reverse.mpr mem)))
  rw [List.rdropWhile, List.reverse_append, List.dropWhile_append, if_neg left,
    List.reverse_append, List.reverse_reverse, List.rdropWhile]

/-- What ends in a slash and is left behind, is followed by something else. -/
theorem exists_of_prefix_rdropWhile {cs : List Char}
    (kept : scheme ++ ['/'] <+: cs.rdropWhile isSlash) :
    ∃ rest, cs = scheme ++ ['/'] ++ rest ∧ ∃ c ∈ rest, c ≠ '/' := by
  obtain ⟨tail, trimmed⟩ := kept
  obtain ⟨slashes, all⟩ := List.rdropWhile_prefix isSlash (l := cs)
  have filled : cs.rdropWhile isSlash ≠ [] := by simp [← trimmed]
  have last := List.rdropWhile_last_not isSlash cs filled
  rw [← trimmed, List.append_assoc] at all
  refine ⟨tail ++ slashes, by rw [← all, List.append_assoc], ?_⟩
  simp only [← trimmed] at last
  cases tail using List.reverseRecOn with
  | nil => simp at last
  | append_singleton tail c =>
    refine ⟨c, by simp, ?_⟩
    simpa [← List.append_assoc] using last

/-- A URL keeps its scheme exactly if it goes on behind it. -/
theorem prefix_trimSlashes_iff {scheme : String} (ends : ∃ lead, scheme.toList = lead ++ ['/']) :
    scheme.toList <+: (trimSlashes url).toList ↔
      ∃ rest, url = scheme ++ rest ∧ ∃ c ∈ rest.toList, c ≠ '/' := by
  obtain ⟨lead, slash⟩ := ends
  rw [toList_trimSlashes]
  constructor
  · intro kept
    rw [slash] at kept
    obtain ⟨rest, whole, c, mem, other⟩ := exists_of_prefix_rdropWhile kept
    refine ⟨String.ofList rest, ?_, c, by rwa [String.toList_ofList], other⟩
    rw [← String.toList_inj, String.toList_append, String.toList_ofList, slash, whole]
  · rintro ⟨rest, rfl, c, mem, other⟩
    rw [String.toList_append, rdropWhile_append_of_mem mem other]
    exact List.prefix_append _ _

/-- The test for a scheme looks at the first characters. -/
theorem isHttpUrl_iff : isHttpUrl url = true ↔
    ∃ scheme ∈ ["http://", "https://"], scheme.toList <+: url.toList := by
  simp [isHttpUrl, List.isPrefixOf_iff_prefix]

/-- The test for a scheme finds it. -/
theorem isHttpUrl_iff_hasScheme : isHttpUrl url = true ↔ HasScheme url := by
  rw [isHttpUrl_iff]
  refine exists_congr fun scheme => and_congr_right fun _ => ⟨?_, ?_⟩
  · rintro ⟨rest, whole⟩
    refine ⟨String.ofList rest, ?_⟩
    rw [← String.toList_inj, String.toList_append, String.toList_ofList, whole]
  · rintro ⟨rest, rfl⟩
    rw [String.toList_append]
    exact List.prefix_append _ _

/-- A URL without the slashes at its end has a scheme exactly if it goes on behind it. -/
theorem isHttpUrl_trimSlashes : isHttpUrl (trimSlashes url) = true ↔ GoesOn url := by
  rw [isHttpUrl_iff]
  refine exists_congr fun scheme => and_congr_right fun known => prefix_trimSlashes_iff ?_
  rcases List.mem_pair.mp known with rfl | rfl
  · exact ⟨"http:/".toList, rfl⟩
  · exact ⟨"https:/".toList, rfl⟩

/-- A URL with a scheme is not empty, without the slashes at its end either. -/
theorem isEmpty_trimSlashes (http : isHttpUrl url = true) : (trimSlashes url).isEmpty = false := by
  obtain ⟨scheme, known, tail, whole⟩ := isHttpUrl_iff.mp http
  have mem : 'h' ∈ url.toList := by
    rw [← whole]
    refine List.mem_append_left _ ?_
    rcases List.mem_pair.mp known with rfl | rfl <;> decide
  rw [Bool.eq_false_iff, Ne, String.isEmpty_iff, ← String.toList_inj, toList_trimSlashes]
  intro none
  exact absurd (List.rdropWhile_eq_nil_iff.mp none _ mem) (by decide)

end Trimming

/-! ## What is accepted -/

section Accepting

variable {s : ConfigSettings τ} {c : Config τ}

/-- A version is named by its tag alone. -/
theorem ofTag?_eq_some_iff {tag : String} {version : ApiVersion} :
    ApiVersion.ofTag? tag = some version ↔ tag = version.tag := by
  constructor
  · intro found
    exact (eq_of_beq (List.find?_some found :)).symm
  · rintro rfl
    cases version <;> rfl

/-- Which settings are accepted, and what is kept of them. -/
theorem ofSettings_eq_ok_iff : ofSettings s = .ok c ↔
    isHttpUrl s.baseUrl = true ∧ TimeScale.le s.timeout 0.0 = false ∧
      { s with baseUrl := trimSlashes s.baseUrl } = c.toSettings := by
  obtain ⟨baseUrl, apiVersion, timeout, retry, simulator, userAgent⟩ := s
  constructor
  · intro made
    unfold ofSettings at made
    split at made
    next => cases made
    next =>
      split at made
      next => cases made
      next http =>
        split at made
        next => cases made
        next version found =>
          split at made
          next => cases made
          next positive =>
            cases made
            cases ofTag?_eq_some_iff.mp found
            exact ⟨by simpa using http, Bool.eq_false_iff.mpr positive, rfl⟩
  · rintro ⟨http, positive, kept⟩
    have filled : baseUrl.isEmpty = false := by
      rw [Bool.eq_false_iff, Ne, String.isEmpty_iff]
      rintro rfl
      cases http
    obtain ⟨trimmed, rfl, rfl, rfl, rfl, rfl⟩ := ConfigSettings.mk.inj kept
    have found := ofTag?_eq_some_iff.mpr (rfl : c.apiVersion.tag = _)
    simp only [ofSettings, filled, http, found, positive, trimmed]
    rfl

/-- What is made again of its own fields is accepted if it still has its scheme, and nothing of it
changes. Otherwise it is refused for its URL. -/
theorem ofSettings_toSettings (made : ofSettings s = .ok c) :
    ofSettings c.toSettings =
      if isHttpUrl c.baseUrl then .ok c else .error (.notHttp c.baseUrl) := by
  obtain ⟨http, positive, kept⟩ := ofSettings_eq_ok_iff.mp made
  obtain ⟨trimmed, -, same, -⟩ := ConfigSettings.mk.inj kept
  split
  next again =>
    rw [same] at positive
    refine ofSettings_eq_ok_iff.mpr ⟨again, positive, ?_⟩
    show { c.toSettings with baseUrl := trimSlashes c.baseUrl } = c.toSettings
    rw [← trimmed, trimSlashes_trimSlashes, trimmed]
    rfl
  next lost =>
    have filled : c.baseUrl.isEmpty = false := by
      rw [← trimmed]
      exact isEmpty_trimSlashes http
    simp only [ofSettings, toSettings, filled, lost]
    rfl

end Accepting

end Config

/-! ## Where configurations come from -/

/-- The ways to a configuration: from settings, from settings for a simulator whatever they say of
that themselves, and from the variables of a prefix. -/
inductive ConfigOrigin (τ : Type) [TimeScale τ] where
  | settings (s : ConfigSettings τ)
  | simulator (s : ConfigSettings τ)
  | environment (env : Environment) (lead : String)

namespace ConfigOrigin

/-- The configuration, or why there is none. -/
def build : ConfigOrigin τ → Except (EnvironmentFault τ) (Config τ)
  | settings s => (Config.ofSettings s).mapError .config
  | simulator s => (Config.ofSettings { s with simulator := true }).mapError .config
  | environment env lead => env.config lead

/-- The base URL as it was given, or the one of the network for development. -/
def baseUrl : ConfigOrigin τ → String
  | settings s | simulator s => s.baseUrl
  | environment env lead => (env.value? (lead ++ "GATEWAY_URL")).getD devnetGateway

/-- The timeout as it was given, or the usual one. -/
def timeout : ConfigOrigin τ → τ
  | settings s | simulator s => s.timeout
  | environment env lead => ((env.value? (lead ++ "TIMEOUT")).bind TimeScale.parse?).getD 30.0

variable {o : ConfigOrigin τ} {c : Config τ}

/-- What succeeds in two steps succeeds in the first. -/
theorem exists_of_bind_ok {ε α β : Type} {x : Except ε α} {f : α → Except ε β} {b : β}
    (made : (x >>= f) = .ok b) : ∃ a, x = .ok a ∧ f a = .ok b := by
  cases x with
  | ok a => exact ⟨a, rfl, made⟩
  | error e => cases made

omit [TimeScale τ] in
/-- What is read of a variable is what its value says. -/
theorem read_eq_ok {α : Type} {env : Environment} {name : String} {parse? : String → Option α}
    {fault : String → String → EnvironmentFault τ} {a? : Option α}
    (read : env.read name parse? fault = .ok a?) : a? = (env.value? name).bind parse? := by
  unfold Environment.read at read
  split at read
  next unset =>
    cases read
    rw [unset, Option.bind_none]
  next value given =>
    rw [given, Option.bind_some]
    split at read
    next a said => cases read; rw [said]
    next => cases read

/-- Every configuration is made of settings with the URL and the timeout that were given. -/
theorem exists_settings (built : o.build = .ok c) : ∃ s, Config.ofSettings s = .ok c ∧
    s.baseUrl = o.baseUrl ∧ s.timeout = o.timeout := by
  have accepted : ∀ {s : ConfigSettings τ},
      (Config.ofSettings s).mapError EnvironmentFault.config = .ok c →
        Config.ofSettings s = .ok c := by
    intro s made
    cases eq : Config.ofSettings s with
    | ok kept => rw [eq] at made; cases made; rfl
    | error fault => rw [eq] at made; cases made
  cases o with
  | settings s => exact ⟨s, accepted built, rfl, rfl⟩
  | simulator s => exact ⟨_, accepted built, rfl, rfl⟩
  | environment env lead =>
    obtain ⟨timeout, read, built⟩ := exists_of_bind_ok built
    obtain ⟨attempts, -, built⟩ := exists_of_bind_ok built
    obtain ⟨baseDelay, -, built⟩ := exists_of_bind_ok built
    obtain ⟨retry, -, built⟩ := exists_of_bind_ok built
    obtain ⟨simulator, -, built⟩ := exists_of_bind_ok built
    refine ⟨_, accepted built, rfl, ?_⟩
    show timeout.getD 30.0 = _
    rw [read_eq_ok read]
    rfl

/-! ## The law of configurations -/

/-- **What every configuration keeps of what was checked.** Its URL has no slash at its end, and its
path scheme is known. The URL has its scheme, and the configuration is accepted again, unchanged,
exactly if the URL that was given goes on behind the scheme; otherwise it is refused for what is
left of its URL. The timeout is above zero exactly if it is a number. -/
theorem validity_law {o : ConfigOrigin Float} {c : Config Float} (built : o.build = .ok c) :
    (∀ rest, c.baseUrl ≠ rest ++ "/") ∧
      ApiVersion.ofTag? c.toSettings.apiVersion = some c.apiVersion ∧
      (Config.HasScheme c.baseUrl ↔ Config.GoesOn o.baseUrl) ∧
      (0.0 < c.timeout ↔ o.timeout.isNaN = false) ∧
      (Config.ofSettings c.toSettings = .ok c ↔ Config.GoesOn o.baseUrl) ∧
      (¬ Config.GoesOn o.baseUrl →
        Config.ofSettings c.toSettings = .error (.notHttp c.baseUrl)) := by
  obtain ⟨s, made, url, timeout⟩ := exists_settings built
  obtain ⟨-, positive, kept⟩ := Config.ofSettings_eq_ok_iff.mp made
  obtain ⟨trimmed, -, same, -⟩ := ConfigSettings.mk.inj kept
  have goesOn : Config.isHttpUrl c.baseUrl = true ↔ Config.GoesOn o.baseUrl := by
    rw [← trimmed, url]
    exact Config.isHttpUrl_trimSlashes
  have again := Config.ofSettings_toSettings made
  refine ⟨?_, Config.ofTag?_eq_some_iff.mpr rfl, ?_, ?_, ?_, ?_⟩
  · rw [← trimmed]
    exact Config.trimSlashes_ne_append_slash
  · rw [← Config.isHttpUrl_iff_hasScheme, goesOn]
  · rw [← timeout, same]
    rw [same] at positive
    exact Double.zero_lt_iff_of_not_le (of_decide_eq_false positive)
  · rw [again, ← goesOn]
    split <;> simp [*]
  · intro ends
    rw [again, if_neg (mt goesOn.mp ends)]

section Variables

/-- A URL and a timeout from the environment. -/
def ofVariables (url timeout : String) : ConfigOrigin Float :=
  .environment [("NODE_TIMEOUT", timeout), ("NODE_GATEWAY_URL", url), ("NODE_API_VERSION", "v2")]
    "NODE_"

/-- Slashes and blanks around a URL with a path are taken off. What is left is accepted, and the
timeout is above zero. -/
theorem validity_law_blanks :
    ∃ c, (ofVariables " https://node.test/v1// " "1e1").build = .ok c ∧
      c.baseUrl = "https://node.test/v1" ∧ 0.0 < c.timeout ∧
      Config.ofSettings c.toSettings = .ok c := by
  have found : (ofVariables " https://node.test/v1// " "1e1").build.toOption.map (·.baseUrl) =
      some "https://node.test/v1" := by decide +kernel
  obtain ⟨c, built, url⟩ := exists_of_toOption found
  obtain ⟨-, -, -, positive, again, -⟩ := validity_law built
  refine ⟨c, built, url, positive.mpr (by decide +kernel), again.mpr ?_⟩
  exact ⟨"https://", by decide, "node.test/v1//", by decide +kernel, 'n', by decide, by decide⟩

/-- A scheme and slashes are accepted for a URL, and a timeout that is no number. The configuration
has neither a scheme nor a timeout above zero, and is not accepted again. -/
theorem scheme_lost :
    ∃ c, (ofVariables "http:///" "nan").build = .ok c ∧ c.baseUrl = "http:" ∧
      ¬ Config.HasScheme c.baseUrl ∧ ¬ 0.0 < c.timeout ∧
      Config.ofSettings c.toSettings = .error (.notHttp "http:") := by
  have found : (ofVariables "http:///" "nan").build.toOption.map
      (fun c => (c.baseUrl, c.timeout.isNaN)) = some ("http:", true) := by decide +kernel
  obtain ⟨c, built, kept⟩ := exists_of_toOption found
  obtain ⟨url, undefined⟩ := Prod.mk.inj kept
  obtain ⟨s, made, -⟩ := exists_settings built
  have again := Config.ofSettings_toSettings made
  have lost : ¬ Config.isHttpUrl "http:" = true := by decide
  rw [url, if_neg lost] at again
  refine ⟨c, built, url, ?_, Double.not_lt_of_isNaN (.inr undefined), again⟩
  rwa [url, ← Config.isHttpUrl_iff_hasScheme]

end Variables

end ConfigOrigin
end GatewayClient
