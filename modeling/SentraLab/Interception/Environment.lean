import Mathlib.Data.List.Infix
import Mathlib.Data.List.Nodup
import SentraLab.Basic

/-!
# What the library shims put in an agent's environment

Model of `LibraryShim::get_env_vars` in `interception/library_shims.rs`: it sets
`<SERVICE>_BASE_URL` for each entry of the `mock_base_urls` map, then three mock API keys.
`str::to_uppercase` is a parameter (`toUppercase`), the Unicode mapping being outside the
sources.

`getEnvVars_keys_nodup_iff`: the variables are set once each exactly when no two service
names have the same upper case; otherwise the process gets two values for one variable, in
the map's iteration order.
-/

namespace SentraLab.Interception

/-- `ShimConfig`, with the field its functions read: the `mock_base_urls` map as its
entries in iteration order. -/
structure ShimConfig where
  mockBaseUrls : List (String × String)
deriving DecidableEq, Repr

/-- `ShimConfig::default`'s map, in one of its iteration orders. -/
def ShimConfig.default : ShimConfig :=
  ⟨[("openai", "http://localhost:8080"), ("anthropic", "http://localhost:8081"),
    ("stripe", "http://localhost:8082")]⟩

namespace LibraryShim

variable (toUppercase : String → String)

/-- `LibraryShim::get_env_vars`: `<SERVICE>_BASE_URL` for each entry of the map, in its
iteration order, then the three mock API keys. -/
def getEnvVars (config : ShimConfig) : List (String × String) :=
  config.mockBaseUrls.map (fun e => (toUppercase e.1 ++ "_BASE_URL", e.2)) ++
    [("OPENAI_API_KEY", "mock_key_sentra_lab"), ("ANTHROPIC_API_KEY", "mock_key_sentra_lab"),
      ("STRIPE_API_KEY", "sk_test_mock_sentra_lab")]

/-- No `_BASE_URL` variable is one of the API-key variables. -/
theorem baseUrl_ne_apiKey (s : String) :
    s ++ "_BASE_URL" ∉ ["OPENAI_API_KEY", "ANTHROPIC_API_KEY", "STRIPE_API_KEY"] := by
  intro h
  have hsuf : ∀ k ∈ ["OPENAI_API_KEY", "ANTHROPIC_API_KEY", "STRIPE_API_KEY"],
      ¬"_BASE_URL".toList <:+ k.toList := by decide
  exact hsuf _ h ⟨s.data, rfl⟩

/-- Appending `_BASE_URL` keeps names apart. -/
theorem baseUrl_injective : Function.Injective fun s : String => s ++ "_BASE_URL" := by
  intro a b h
  exact String.ext (List.append_cancel_right (congrArg String.data h))

/-- For every map of mock base URLs and every upper-casing: the library shims' variables are
set once each exactly when no two service names have the same upper case. Two services
whose names differ only in case, such as `openai` and `OpenAI`, set one variable twice,
and the process keeps the value of whichever entry the map iterates last. -/
theorem getEnvVars_keys_nodup_iff (config : ShimConfig) :
    ((getEnvVars toUppercase config).map Prod.fst).Nodup ↔
      (config.mockBaseUrls.map fun e => toUppercase e.1).Nodup := by
  have hmap : (config.mockBaseUrls.map fun e => toUppercase e.1 ++ "_BASE_URL") =
      (config.mockBaseUrls.map fun e => toUppercase e.1).map (· ++ "_BASE_URL") := by
    simp [Function.comp_def]
  simp only [getEnvVars, List.map_append, List.map_map, Function.comp_def, List.map_cons,
    List.map_nil]
  rw [List.nodup_append, hmap, List.nodup_map_iff baseUrl_injective]
  constructor
  · exact fun h => h.1
  · refine fun h => ⟨h, by decide, fun a ha hb => ?_⟩
    obtain ⟨s, -, rfl⟩ := List.mem_map.mp ha
    exact baseUrl_ne_apiKey s hb

end LibraryShim

end SentraLab.Interception
