import Mathlib.Data.Char
import Mathlib.Data.List.Sort
import SentraLab.Basic

/-!
# The routing table

Model of `interception/routing_table.rs`: the `HashMap<String, Route>` behind the proxy,
its three writers (`add_route`, `remove_route`, `clear_routes`) and `lookup`.

A Rust `HashMap` iterates its entries in an order fixed by its hasher, and nothing in the
source pins that order down. The map is therefore the list of its entries in *some*
iteration order: `RoutingTable.Reachable` is closed under reordering the list, so every
statement about reachable tables holds for every iteration order the map may use.

Domains are the characters of the Rust `String`s; `&pattern[2..]` is `List.drop 2`, which
is the same slice because `pattern` starts with the two one-byte characters `*.`.

Two lookups live here:

* `RoutingTable.lookup`, translated from the source: the exact entry, else the first
  entry in iteration order whose key starts with `*.` and whose remainder the domain
  *ends with*;
* `RoutingTable.lookupSpec`, the lookup of the routing contract (exact match, else the
  best wildcard `*.s` with `d = x.s`, `x` non-empty, by priority, then suffix length,
  then key order), with `lookupSpec_perm`: it does not depend on the iteration order.
-/

namespace SentraLab.Interception

/-- `Route`: a source domain or `*.` pattern, the mock target URL, an optional path prefix
and a priority (higher = checked first). -/
structure Route where
  domain : List Char
  target : String
  pathPrefix : Option String
  priority : Nat
deriving DecidableEq, Repr

/-- `Route::new`: no path prefix, priority `0`. -/
def Route.new (domain : List Char) (target : String) : Route :=
  ⟨domain, target, none, 0⟩

/-- `Route::with_prefix`. -/
def Route.withPrefix (r : Route) (pathPrefix : String) : Route :=
  { r with pathPrefix := some pathPrefix }

/-- `Route::with_priority`. -/
def Route.withPriority (r : Route) (priority : Nat) : Route :=
  { r with priority := priority }

/-- `RoutingTable`: the entries of its map, in the map's iteration order. -/
structure RoutingTable where
  routes : List (List Char × Route)
deriving DecidableEq, Repr

namespace RoutingTable

/-- `RoutingTable::new`. -/
def new : RoutingTable := ⟨[]⟩

/-- The keys of the map, in iteration order. -/
def keys (t : RoutingTable) : List (List Char) := t.routes.map Prod.fst

/-- `HashMap::get`. -/
def get (t : RoutingTable) (k : List Char) : Option Route :=
  (t.routes.find? (·.1 == k)).map (·.2)

/-- `add_route`: `HashMap::insert(route.domain, route)`, which replaces an entry under the
same key. Always `Ok`. -/
def addRoute (t : RoutingTable) (route : Route) : RoutingTable :=
  ⟨t.routes.filter (·.1 != route.domain) ++ [(route.domain, route)]⟩

/-- `remove_route`: `ConfigError` when no entry has the key. -/
def removeRoute (t : RoutingTable) (domain : List Char) : Except EngineError RoutingTable :=
  if t.routes.any (·.1 == domain) then .ok ⟨t.routes.filter (·.1 != domain)⟩
  else .error (.configError ("No route found for domain: " ++ String.mk domain))

/-- `clear_routes`. -/
def clearRoutes (_ : RoutingTable) : RoutingTable := ⟨[]⟩

/-- `RoutingTable::with_defaults`: the five mock services, each added with `Route::new`. -/
def withDefaults : RoutingTable :=
  [Route.new "api.openai.com".toList "http://localhost:8080",
   Route.new "api.anthropic.com".toList "http://localhost:8081",
   Route.new "api.stripe.com".toList "http://localhost:8082",
   Route.new "api.cohere.ai".toList "http://localhost:8083",
   Route.new "generativelanguage.googleapis.com".toList "http://localhost:8084"].foldl
    addRoute new

/-- The wildcard test of `lookup`:
`pattern.starts_with("*.") && domain.ends_with(&pattern[2..])`. -/
def wildcardHit (domain pattern : List Char) : Bool :=
  ['*', '.'].isPrefixOf pattern && (pattern.drop 2).isSuffixOf domain

/-- `RoutingTable::lookup`: the exact entry, else the first entry in iteration order that
passes `wildcardHit`. -/
def lookup (t : RoutingTable) (domain : List Char) : Option Route :=
  match t.get domain with
  | some route => some route
  | none => (t.routes.find? fun e => wildcardHit domain e.1).map (·.2)

/-- The tables the writers can build from `RoutingTable::new`, in every iteration order. -/
inductive Reachable : RoutingTable → Prop where
  | new : Reachable new
  | add {t : RoutingTable} (route : Route) : Reachable t → Reachable (t.addRoute route)
  | remove {t t' : RoutingTable} (domain : List Char) :
      Reachable t → t.removeRoute domain = .ok t' → Reachable t'
  | clear {t : RoutingTable} : Reachable t → Reachable t.clearRoutes
  | reorder {t : RoutingTable} {l : List (List Char × Route)} :
      Reachable t → t.routes.Perm l → Reachable ⟨l⟩

/-! ## The map's keys stay unique -/

theorem keys_filter_nodup (t : RoutingTable) (p : List Char × Route → Bool)
    (h : t.keys.Nodup) : (t.routes.filter p).map Prod.fst |>.Nodup :=
  (List.filter_sublist _).map _ |>.nodup h

theorem keys_addRoute_nodup (t : RoutingTable) (route : Route) (h : t.keys.Nodup) :
    (t.addRoute route).keys.Nodup := by
  simp only [keys, addRoute, List.map_append, List.map_cons, List.map_nil]
  refine List.nodup_append.mpr ⟨keys_filter_nodup t _ h, List.nodup_singleton _,
    List.disjoint_singleton.mpr ?_⟩
  simp only [List.mem_map, List.mem_filter, bne_iff_ne, ne_eq, not_exists, not_and]
  exact fun e he => he.2

theorem removeRoute_eq_ok {t t' : RoutingTable} {domain : List Char}
    (h : t.removeRoute domain = .ok t') : t' = ⟨t.routes.filter (·.1 != domain)⟩ := by
  unfold removeRoute at h
  split at h <;> cases h
  rfl

/-- Every reachable table has one entry per key. -/
theorem Reachable.keys_nodup {t : RoutingTable} (h : Reachable t) : t.keys.Nodup := by
  induction h with
  | new => exact List.nodup_nil
  | add route _ ih => exact keys_addRoute_nodup _ route ih
  | remove domain _ hr ih => rw [removeRoute_eq_ok hr]; exact keys_filter_nodup _ _ ih
  | clear => exact List.nodup_nil
  | reorder _ hp ih => exact (hp.map Prod.fst).nodup_iff.mp ih

/-- With unique keys, `get` finds the entry stored under the key. -/
theorem get_of_mem {t : RoutingTable} {k : List Char} {r : Route} (hk : t.keys.Nodup)
    (hm : (k, r) ∈ t.routes) : t.get k = some r := by
  obtain ⟨e, he⟩ : ∃ e, t.routes.find? (·.1 == k) = some e := by
    cases hf : t.routes.find? (·.1 == k) with
    | some e => exact ⟨e, rfl⟩
    | none => exact absurd (beq_self_eq_true k) (List.find?_eq_none.mp hf _ hm)
  have hek : e.1 = k := by simpa using List.find?_some he
  have : e = (k, r) := List.inj_on_of_nodup_map hk (List.mem_of_find?_eq_some he) hm hek
  simp [get, he, this]

/-! ## The lookup of the routing contract -/

/-- The contract's wildcard test: `pattern` is `*.s` and `domain` is `x.s` with `x`
non-empty (`wildcardMatches_iff`). -/
def wildcardMatches (domain pattern : List Char) : Bool :=
  ['*', '.'].isPrefixOf pattern && ('.' :: pattern.drop 2).isSuffixOf domain &&
    decide (pattern.length ≤ domain.length)

theorem wildcardMatches_iff {domain pattern : List Char} :
    wildcardMatches domain pattern = true ↔
      ∃ s x, pattern = '*' :: '.' :: s ∧ x ≠ [] ∧ domain = x ++ '.' :: s := by
  simp only [wildcardMatches, Bool.and_eq_true, List.isPrefixOf_iff_prefix,
    List.isSuffixOf_iff_suffix, decide_eq_true_eq]
  constructor
  · rintro ⟨⟨⟨u, rfl⟩, ⟨x, hx⟩⟩, hlen⟩
    refine ⟨u, x, rfl, ?_, hx.symm⟩
    rintro rfl
    simp only [← hx, List.nil_append, List.length_cons, List.length_drop,
      List.length_append] at hlen
    omega
  · rintro ⟨s, x, rfl, hx, rfl⟩
    have : 0 < x.length := List.length_pos.mpr hx
    exact ⟨⟨⟨s, rfl⟩, ⟨x, rfl⟩⟩, by simp; omega⟩

/-- Strict lexicographic order of keys, by character. -/
def keyLt : List Char → List Char → Bool
  | [], [] => false
  | [], _ :: _ => true
  | _ :: _, [] => false
  | a :: as, b :: bs => decide (a < b) || (decide (a = b) && keyLt as bs)

theorem keyLt_irrefl : ∀ k : List Char, keyLt k k = false
  | [] => rfl
  | a :: as => by simp [keyLt, keyLt_irrefl as]

theorem keyLt_trans : ∀ {a b c : List Char}, keyLt a b = true → keyLt b c = true →
    keyLt a c = true
  | [], _ :: _, _ :: _, _, _ => rfl
  | x :: xs, y :: ys, z :: zs, h1, h2 => by
    simp only [keyLt, Bool.or_eq_true, Bool.and_eq_true, decide_eq_true_eq] at *
    rcases h1 with h1 | ⟨rfl, h1⟩ <;> rcases h2 with h2 | ⟨rfl, h2⟩
    · exact .inl (lt_trans h1 h2)
    · exact .inl h1
    · exact .inl h2
    · exact .inr ⟨rfl, keyLt_trans h1 h2⟩

theorem keyLt_total : ∀ {a b : List Char}, a ≠ b → keyLt a b = true ∨ keyLt b a = true
  | [], [], h => absurd rfl h
  | [], _ :: _, _ => .inl rfl
  | _ :: _, [], _ => .inr rfl
  | x :: xs, y :: ys, h => by
    simp only [keyLt, Bool.or_eq_true, Bool.and_eq_true, decide_eq_true_eq]
    rcases lt_trichotomy x y with hxy | rfl | hxy
    · exact .inl (.inl hxy)
    · rcases @keyLt_total xs ys (by simpa using h) with h' | h'
      · exact .inl (.inr ⟨rfl, h'⟩)
      · exact .inr (.inr ⟨rfl, h'⟩)
    · exact .inr (.inl hxy)

/-- `a` is preferred to `b` as a wildcard match: a higher priority, then a longer pattern
(the longer suffix `s`), then the lexicographically smaller key. -/
def outranks (a b : List Char × Route) : Bool :=
  decide (b.2.priority < a.2.priority) ||
    (decide (a.2.priority = b.2.priority) &&
      (decide (b.1.length < a.1.length) || (decide (a.1.length = b.1.length) && keyLt a.1 b.1)))

theorem outranks_irrefl (a : List Char × Route) : outranks a a = false := by
  simp [outranks, keyLt_irrefl]

theorem outranks_trans {a b c : List Char × Route} (h1 : outranks a b = true)
    (h2 : outranks b c = true) : outranks a c = true := by
  simp only [outranks, Bool.or_eq_true, Bool.and_eq_true, decide_eq_true_eq] at *
  rcases h1 with h1 | ⟨p1, h1 | ⟨l1, k1⟩⟩ <;> rcases h2 with h2 | ⟨p2, h2 | ⟨l2, k2⟩⟩ <;>
    first
    | exact .inl (by omega)
    | exact .inr ⟨by omega, .inl (by omega)⟩
    | exact .inr ⟨by omega, .inr ⟨by omega, keyLt_trans k1 k2⟩⟩

theorem outranks_total {a b : List Char × Route} (h : a.1 ≠ b.1) :
    outranks a b = true ∨ outranks b a = true := by
  simp only [outranks, Bool.or_eq_true, Bool.and_eq_true, decide_eq_true_eq]
  rcases Nat.lt_trichotomy a.2.priority b.2.priority with hp | hp | hp
  · exact .inr (.inl hp)
  · rcases Nat.lt_trichotomy a.1.length b.1.length with hl | hl | hl
    · exact .inr (.inr ⟨hp.symm, .inl hl⟩)
    · rcases keyLt_total h with hk | hk
      · exact .inl (.inr ⟨hp, .inr ⟨hl, hk⟩⟩)
      · exact .inr (.inr ⟨hp.symm, .inr ⟨hl.symm, hk⟩⟩)
    · exact .inl (.inr ⟨hp, .inl hl⟩)
  · exact .inl (.inl hp)

theorem outranks_asymm {a b : List Char × Route} (h : outranks a b = true) :
    outranks b a = false := by
  cases h' : outranks b a
  · rfl
  · simpa [outranks_irrefl] using outranks_trans h h'

/-- The entry of a list that outranks every other one. -/
def best : List (List Char × Route) → Option (List Char × Route)
  | [] => none
  | e :: rest =>
    match best rest with
    | none => some e
    | some b => if outranks b e then some b else some e

theorem best_eq_none_iff {l : List (List Char × Route)} : best l = none ↔ l = [] := by
  cases l with
  | nil => simp [best]
  | cons e rest => simp only [best]; split <;> [simp; split <;> simp]

/-- `best` picks a member of the list that outranks every entry under another key. -/
theorem best_spec : ∀ {l : List (List Char × Route)} {m : List Char × Route},
    (l.map Prod.fst).Nodup → best l = some m →
      m ∈ l ∧ ∀ e ∈ l, e.1 ≠ m.1 → outranks m e = true
  | e :: rest, m, hn, h => by
    obtain ⟨he, hn⟩ := List.nodup_cons.mp hn
    simp only [best] at h
    cases hb : best rest with
    | none =>
      rw [hb] at h; cases h
      simp [best_eq_none_iff.mp hb]
    | some b =>
      rw [hb] at h
      obtain ⟨hbm, hbtop⟩ := best_spec hn hb
      have heb : e.1 ≠ b.1 := fun h' => he (h' ▸ List.mem_map_of_mem _ hbm)
      by_cases hbe : outranks b e = true
      · simp only [hbe, ↓reduceIte, Option.some.injEq] at h
        subst h
        refine ⟨List.mem_cons_of_mem _ hbm, fun x hx hxb => ?_⟩
        rcases List.mem_cons.mp hx with hx | hx
        · rw [hx]; exact hbe
        · exact hbtop x hx hxb
      · simp only [hbe, Bool.false_eq_true, ↓reduceIte, Option.some.injEq] at h
        subst h
        have heb' : outranks e b = true := (outranks_total heb).resolve_right hbe
        refine ⟨List.mem_cons_self _ _, fun x hx hxe => ?_⟩
        rcases List.mem_cons.mp hx with hx | hx
        · exact absurd (congrArg Prod.fst hx) hxe
        · by_cases hxb : x.1 = b.1
          · rwa [List.inj_on_of_nodup_map hn hx hbm hxb]
          · exact outranks_trans heb' (hbtop x hx hxb)

/-- Two entries that each outrank every entry under another key are the same entry. -/
theorem top_unique {l : List (List Char × Route)} {m m' : List Char × Route}
    (hn : (l.map Prod.fst).Nodup) (hm : m ∈ l) (hm' : m' ∈ l)
    (htop : ∀ e ∈ l, e.1 ≠ m.1 → outranks m e = true)
    (htop' : ∀ e ∈ l, e.1 ≠ m'.1 → outranks m' e = true) : m = m' := by
  by_contra hne
  have hk : m'.1 ≠ m.1 := fun h => hne (List.inj_on_of_nodup_map hn hm' hm h).symm
  have := outranks_asymm (htop m' hm' hk)
  simp [htop' m hm (Ne.symm hk)] at this

theorem best_perm {l l' : List (List Char × Route)} (hn : (l.map Prod.fst).Nodup)
    (hp : l.Perm l') : best l = best l' := by
  have hn' : (l'.map Prod.fst).Nodup := (hp.map _).nodup_iff.mp hn
  cases h : best l with
  | none =>
    obtain rfl := best_eq_none_iff.mp h
    rw [List.nil_perm.mp hp]; rfl
  | some m =>
    cases h' : best l' with
    | none =>
      obtain rfl := best_eq_none_iff.mp h'
      rw [List.perm_nil.mp hp] at h; cases h
    | some m' =>
      obtain ⟨hm, htop⟩ := best_spec hn h
      obtain ⟨hm', htop'⟩ := best_spec hn' h'
      exact congrArg some <| top_unique hn' (hp.subset hm) hm'
        (fun e he => htop e (hp.symm.subset he)) htop'

/-- The lookup the routing contract describes: the route stored under the domain if there
is one, else the best-ranked wildcard entry that `wildcardMatches`, else `None`. -/
def lookupSpec (t : RoutingTable) (domain : List Char) : Option Route :=
  match t.get domain with
  | some route => some route
  | none => (best (t.routes.filter fun e => wildcardMatches domain e.1)).map (·.2)

theorem get_eq_some_iff {t : RoutingTable} {k : List Char} {r : Route} (hk : t.keys.Nodup) :
    t.get k = some r ↔ (k, r) ∈ t.routes := by
  refine ⟨fun h => ?_, get_of_mem hk⟩
  obtain ⟨e, he, rfl⟩ := Option.map_eq_some'.mp h
  have hek : e.1 = k := by simpa using List.find?_some he
  exact hek ▸ List.mem_of_find?_eq_some he

theorem get_perm {t t' : RoutingTable} (hk : t.keys.Nodup) (hp : t.routes.Perm t'.routes)
    (k : List Char) : t.get k = t'.get k := by
  have hk' : t'.keys.Nodup := (hp.map _).nodup_iff.mp hk
  cases h : t.get k with
  | some r => exact (get_eq_some_iff hk' |>.mpr (hp.subset ((get_eq_some_iff hk).mp h))).symm
  | none =>
    cases h' : t'.get k with
    | none => rfl
    | some r =>
      rw [(get_eq_some_iff hk).mpr (hp.symm.subset ((get_eq_some_iff hk').mp h'))] at h
      cases h

/-- The contract's lookup does not depend on the map's iteration order. -/
theorem lookupSpec_perm {t t' : RoutingTable} (hk : t.keys.Nodup)
    (hp : t.routes.Perm t'.routes) (domain : List Char) :
    t.lookupSpec domain = t'.lookupSpec domain := by
  simp only [lookupSpec, get_perm hk hp domain,
    best_perm (keys_filter_nodup t _ hk) (hp.filter _)]

/-! ## Where the source's lookup leaves the contract -/

/-- A wildcard route for `*.openai.com` is returned for the bare parent `openai.com` and for
the look-alike `evilopenai.com`, which the contract maps to `None`; and with a second
wildcard `*.com` of higher priority, the route `lookup` returns for `api.openai.com`
depends on the order the map iterates in. -/
theorem lookup_diverges_from_lookupSpec :
    let u : Route := Route.new "*.openai.com".toList "http://localhost:8081"
    let v : Route := (Route.new "*.com".toList "http://localhost:8082").withPriority 1
    let t := new.addRoute u
    let t₁ := (new.addRoute u).addRoute v
    let t₂ : RoutingTable := ⟨t₁.routes.reverse⟩
    (t.lookup "openai.com".toList = some u ∧ t.lookupSpec "openai.com".toList = none) ∧
    (t.lookup "evilopenai.com".toList = some u ∧
      t.lookupSpec "evilopenai.com".toList = none) ∧
    (Reachable t₁ ∧ Reachable t₂ ∧ t₁.lookup "api.openai.com".toList = some u ∧
      t₂.lookup "api.openai.com".toList = some v ∧
      t₁.lookupSpec "api.openai.com".toList = some v) := by
  intro u v t t₁ t₂
  have h₁ : Reachable t₁ := .add _ (.add _ .new)
  refine ⟨by decide, by decide, h₁, .reorder h₁ (List.reverse_perm _).symm, by decide⟩

end RoutingTable

end SentraLab.Interception
