import Mathlib
import Toolwire.Proofs.Json5.Typed
import Toolwire.Settings
/-!
# Settings that are saved and loaded again

Settings are written as JSON and read as JSON5. What was loaded from any file is loaded again from
the file it is saved in, unless a text in it holds a line separator: `ofBytes_text`.
-/
namespace Toolwire

open Json5 Json5.Reader

/-! ## Numbers that are loaded -/

theorem EngineSettings.loaded_of_read {node : Node} {e : EngineSettings}
    (h : EngineSettings.read node = .ok e) : Loaded e.summaryMax := by
  refine record_invariant (P := fun e : EngineSettings => Loaded e.summaryMax) ?_
    (loaded_of_lt (by decide)) h
  simp only [List.forall_mem_cons, List.not_mem_nil, false_implies, implies_true, and_true]
  exact ⟨keeps_field fun _ _ _ hn _ => loaded_of_natural hn, keeps_field fun _ _ _ _ he => he⟩

theorem ClientSettings.loaded_of_read {node : Node} {c : ClientSettings}
    (h : ClientSettings.read node = .ok c) :
    Loaded c.connectTimeoutMs ∧ Loaded c.poolIdleSeconds := by
  refine record_invariant
    (P := fun c : ClientSettings => Loaded c.connectTimeoutMs ∧ Loaded c.poolIdleSeconds) ?_
    ⟨loaded_of_lt (by decide), loaded_of_lt (by decide)⟩ h
  simp only [List.forall_mem_cons, List.not_mem_nil, false_implies, implies_true, and_true]
  exact ⟨keeps_field fun _ _ _ _ hc => hc,
    keeps_field fun _ _ _ hn hc => ⟨loaded_of_natural hn, hc.2⟩,
    keeps_field fun _ _ _ hn hc => ⟨hc.1, loaded_of_natural hn⟩⟩

namespace Settings

/-- The numbers in settings are those that a number literal can stand for. -/
structure NumbersLoaded (s : Settings) : Prop where
  summaryMax : Loaded s.engine.summaryMax
  connectTimeoutMs : Loaded s.client.connectTimeoutMs
  poolIdleSeconds : Loaded s.client.poolIdleSeconds

theorem numbersLoaded_of_read {node : Node} {s : Settings} (h : read node = .ok s) :
    s.NumbersLoaded := by
  refine record_invariant (P := NumbersLoaded) ?_
    ⟨loaded_of_lt (by decide), loaded_of_lt (by decide), loaded_of_lt (by decide)⟩ h
  simp only [List.forall_mem_cons, List.not_mem_nil, false_implies, implies_true, and_true]
  refine ⟨keeps_field fun _ _ _ he hs => ?_, keeps_field fun _ _ _ hc hs => ?_,
    keeps_field fun _ _ _ _ hs => ?_, keeps_field fun _ _ _ _ hs => ?_⟩
  · exact ⟨EngineSettings.loaded_of_read he, hs.connectTimeoutMs, hs.poolIdleSeconds⟩
  · have hloaded := ClientSettings.loaded_of_read hc
    exact ⟨hs.summaryMax, hloaded.1, hloaded.2⟩
  · exact ⟨hs.summaryMax, hs.connectTimeoutMs, hs.poolIdleSeconds⟩
  · exact ⟨hs.summaryMax, hs.connectTimeoutMs, hs.poolIdleSeconds⟩

end Settings

/-! ## Trees of written settings -/

/-- The literal that a number is written as. -/
def numeral (n : Nat) : Node := .number (Nat.toDigits 10 n)

/-- The tree that the written section on the engine is read as. -/
def EngineSettings.tree (e : EngineSettings) : Node :=
  .object [(.ok "summaryMaxChars", numeral e.summaryMax),
    (.ok "validation", .string (.ok e.validation.name))]

/-- The tree that the written section on requests is read as. -/
def ClientSettings.tree (c : ClientSettings) : Node :=
  .object [(.ok "userAgent", .string (.ok c.userAgent)),
    (.ok "connectTimeoutMs", numeral c.connectTimeoutMs),
    (.ok "poolIdleTimeoutSecs", numeral c.poolIdleSeconds)]

/-- The tree that the written section on stored credentials is read as. -/
def StoreSettings.tree (d : StoreSettings) : Node :=
  .object [(.ok "enabled", .bool d.enabled),
    (.ok "storeDir", (d.directory.map fun path => Node.string (.ok path)).getD .null)]

/-- The tree that the written section on the program itself is read as. -/
def GeneralSettings.tree (g : GeneralSettings) : Node :=
  .object [(.ok "debug", .bool g.debug), (.ok "logFormat", .string (.ok g.logFormat.name))]

/-- The tree that written settings are read as. -/
def Settings.tree (s : Settings) : Node :=
  .object [(.ok "engine", s.engine.tree), (.ok "http", s.client.tree),
    (.ok "secrets", s.store.tree), (.ok "settings", s.general.tree)]

theorem natural_numeral {n : Nat} (h : Loaded n) : natural (numeral n) = .ok n := natural_toDigits h

theorem variant_modes (v : Validation) :
    variant Validation.modes (.string (.ok v.name)) = .ok v := by
  cases v <;> rfl

theorem variant_formats (f : LogFormat) :
    variant LogFormat.formats (.string (.ok f.name)) = .ok f := by
  cases f <;> rfl

theorem EngineSettings.read_tree {e : EngineSettings} (h : Loaded e.summaryMax) :
    EngineSettings.read e.tree = .ok e := by
  rw [EngineSettings.read, tree, record, readPairs_field rfl rfl (natural_numeral h),
    readPairs_field rfl rfl (variant_modes _)]
  rfl

theorem ClientSettings.read_tree {c : ClientSettings} (hc : Loaded c.connectTimeoutMs)
    (hp : Loaded c.poolIdleSeconds) : ClientSettings.read c.tree = .ok c := by
  rw [ClientSettings.read, tree, record, readPairs_field (a := c.userAgent) rfl rfl rfl,
    readPairs_field rfl rfl (natural_numeral hc), readPairs_field rfl rfl (natural_numeral hp)]
  rfl

theorem StoreSettings.read_tree (d : StoreSettings) : StoreSettings.read d.tree = .ok d := by
  obtain ⟨enabled, directory⟩ := d
  cases directory <;> rfl

theorem GeneralSettings.read_tree (g : GeneralSettings) : GeneralSettings.read g.tree = .ok g := by
  rw [GeneralSettings.read, tree, record, readPairs_field (a := g.debug) rfl rfl rfl,
    readPairs_field rfl rfl (variant_formats _)]
  rfl

theorem Settings.read_tree {s : Settings} (h : s.NumbersLoaded) : Settings.read s.tree = .ok s := by
  rw [Settings.read, tree, record,
    readPairs_field rfl rfl (EngineSettings.read_tree h.summaryMax),
    readPairs_field rfl rfl (ClientSettings.read_tree h.connectTimeoutMs h.poolIdleSeconds),
    readPairs_field rfl rfl (StoreSettings.read_tree s.store),
    readPairs_field rfl rfl (GeneralSettings.read_tree s.general)]
  rfl

namespace Settings

/-- A text in settings holds one of the two line separators. -/
def BreaksLine (s : Settings) : Prop :=
  ∃ text ∈ s.client.userAgent :: s.store.directory.toList, ∃ c ∈ text.toList, breaksLine c = true

theorem tree?_ofNat (n : Nat) : tree? (.ofNat n) = some (numeral n) := by
  have htext : (toString (n : Int)).toList = Nat.toDigits 10 n := by
    simp [Int.toString_eq_repr, Int.repr_eq_if, Nat.repr_eq_ofList_toDigits]
  rw [Json.ofNat, tree?, htext]
  rfl

theorem integral_toJson (s : Settings) : Integral s.toJson := by
  obtain ⟨_, _, ⟨enabled, directory⟩, _⟩ := s
  cases directory <;> simp [toJson, Integral, IntegralMembers, Json.ofNat]

/-- The names of fields and of their variants are read as they are. -/
theorem literal?_name : ∀ name ∈ ["engine", "summaryMaxChars", "validation", "strict", "lenient",
    "http", "userAgent", "connectTimeoutMs", "poolIdleTimeoutSecs", "secrets", "enabled",
    "storeDir", "settings", "debug", "logFormat", "pretty", "json"],
    literal? name = some (.ok name) := by
  intro name hname
  fin_cases hname <;> rfl

theorem tree?_toJson {s : Settings} (h : ¬ s.BreaksLine) : tree? s.toJson = some s.tree := by
  obtain ⟨⟨max, validation⟩, ⟨agent, connect, idle⟩, ⟨enabled, directory⟩, ⟨debug, format⟩⟩ := s
  have hagent : literal? agent = some (.ok agent) :=
    literal?_of_unbroken fun hc => h ⟨agent, List.mem_cons_self, hc⟩
  have hdirectory : ∀ d, directory = some d → literal? d = some (.ok d) := fun d hd =>
    literal?_of_unbroken fun hc => h ⟨d, List.mem_cons_of_mem _ (by simp [hd]), hc⟩
  cases validation <;> cases format <;> cases directory <;>
    simp [toJson, tree, EngineSettings.tree, ClientSettings.tree, StoreSettings.tree,
      GeneralSettings.tree, tree?, pairs?, tree?_ofNat, literal?_name, hagent, hdirectory,
      Validation.name, LogFormat.name]

theorem tree?_toJson_of_breaksLine {s : Settings} (h : s.BreaksLine) : tree? s.toJson = none := by
  obtain ⟨⟨max, validation⟩, ⟨agent, connect, idle⟩, ⟨enabled, directory⟩, ⟨debug, format⟩⟩ := s
  obtain ⟨text, htext, hc⟩ := h
  have hnone : literal? text = none := literal?_eq_none.2 hc
  rcases List.mem_cons.1 htext with rfl | htext
  · simp [toJson, tree?, pairs?, tree?_ofNat, literal?_name, hnone]
  · obtain rfl : directory = some text := by simpa using htext
    cases literal? agent <;> simp [toJson, tree?, pairs?, tree?_ofNat, literal?_name, hnone]

theorem parse_text {s : Settings} (h : s.NumbersLoaded) (hp : s.problem? = none) :
    (¬ s.BreaksLine → parse s.text = .ok s)
    ∧ (s.BreaksLine → parse s.text = .error .malformed) := by
  have htext : Json5.parse s.text = tree? s.toJson := parse_pretty (integral_toJson s)
  constructor
  · intro hb
    simp only [parse, htext, tree?_toJson hb, read_tree h, hp]
  · intro hb
    simp only [parse, htext, tree?_toJson_of_breaksLine hb]

theorem ofBytes_toUTF8 (text : String) : ofBytes text.toUTF8 = parse text := by
  have htext : String.fromUTF8? text.toUTF8 = some text := dif_pos text.isValidUTF8
  rw [ofBytes, htext]

/-- What is known of settings that were loaded from a file. -/
theorem loaded_of_ofBytes {bytes : ByteArray} {s : Settings} (h : ofBytes bytes = .ok s) :
    s.NumbersLoaded ∧ s.problem? = none := by
  unfold ofBytes at h
  split at h
  · unfold parse at h
    split at h
    · cases h
    split at h
    · cases h
    · rename_i t ht
      split at h
      · cases h
      · rename_i hp
        obtain rfl := Except.ok.inj h
        exact ⟨numbersLoaded_of_read ht, hp⟩
  · cases h

/-- Settings that were loaded from any file are loaded again from the file that they are saved in,
with every field the same, and saved again that file has the same bytes. The one exception are
settings in which a text holds a line separator: the file that they are saved in cannot be read. -/
theorem ofBytes_text {bytes : ByteArray} {s : Settings} (h : ofBytes bytes = .ok s) :
    (¬ s.BreaksLine → ofBytes s.text.toUTF8 = .ok s)
    ∧ (s.BreaksLine → ofBytes s.text.toUTF8 = .error .malformed)
    ∧ ∀ t, ofBytes s.text.toUTF8 = .ok t → t.text.toUTF8 = s.text.toUTF8 := by
  obtain ⟨hnumbers, hproblem⟩ := loaded_of_ofBytes h
  obtain ⟨hkept, hbroken⟩ := parse_text hnumbers hproblem
  rw [ofBytes_toUTF8]
  refine ⟨hkept, hbroken, fun t ht => ?_⟩
  by_cases hb : s.BreaksLine
  · rw [hbroken hb] at ht
    cases ht
  · rw [hkept hb] at ht
    rw [Except.ok.inj ht]

/-- A number above 64 bits, one in hexadecimal, a fraction, a comment and an escape. -/
theorem ofBytes_text_numbers :
    let file := "\x7bengine: \x7bsummaryMaxChars: 1e30\x7d, // as long as it gets
      http: \x7bconnectTimeoutMs: 0x1F4, poolIdleTimeoutSecs: 90.5,
        userAgent: 'owl\\tclaw'\x7d\x7d"
    let s : Settings := { engine := { summaryMax := 0xFFFFFFFFFFFFFFFF },
                          client := { userAgent := "owl\tclaw", connectTimeoutMs := 500 } }
    ofBytes file.toUTF8 = .ok s ∧ ¬ s.BreaksLine ∧ ofBytes s.text.toUTF8 = .ok s := by
  have hread : parse "\x7bengine: \x7bsummaryMaxChars: 1e30\x7d, // as long as it gets
      http: \x7bconnectTimeoutMs: 0x1F4, poolIdleTimeoutSecs: 90.5,
        userAgent: 'owl\\tclaw'\x7d\x7d" =
      .ok { engine := { summaryMax := 0xFFFFFFFFFFFFFFFF },
            client := { userAgent := "owl\tclaw", connectTimeoutMs := 500 } } := by decide +kernel
  have hb : ¬ BreaksLine { engine := { summaryMax := 0xFFFFFFFFFFFFFFFF },
                           client := { userAgent := "owl\tclaw", connectTimeoutMs := 500 } } := by
    simp [BreaksLine, breaksLine]
  have h := (ofBytes_toUTF8 _).trans hread
  exact ⟨h, hb, (ofBytes_text h).1 hb⟩

/-- An escaped line separator is loaded from a file and saved as itself. -/
theorem ofBytes_text_separator :
    let file := "\x7bhttp: \x7buserAgent: 'owl\\u2028claw'\x7d\x7d"
    let s : Settings := { client := { userAgent := "owl\u2028claw" } }
    ofBytes file.toUTF8 = .ok s ∧ ofBytes s.text.toUTF8 = .error .malformed := by
  have hread : parse "\x7bhttp: \x7buserAgent: 'owl\\u2028claw'\x7d\x7d" =
      .ok { client := { userAgent := "owl\u2028claw" } } := by decide +kernel
  have hb : BreaksLine { client := { userAgent := "owl\u2028claw" } } :=
    ⟨"owl\u2028claw", List.mem_cons_self, '\u2028', by decide, rfl⟩
  have h := (ofBytes_toUTF8 _).trans hread
  obtain ⟨hnumbers, hproblem⟩ := loaded_of_ofBytes h
  exact ⟨h, (ofBytes_toUTF8 _).trans ((parse_text hnumbers hproblem).2 hb)⟩

end Settings
end Toolwire
