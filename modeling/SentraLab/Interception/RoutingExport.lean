import SentraLab.Interception.RoutingTable

/-!
# The routing table's exported configuration

Model of `RoutingTable::get_routes` and `RoutingTable::export_config`
(`interception/routing_table.rs`), and a reader for the text `export_config` writes: a
header line and a blank line, then one line `domain -> target` per route, in the map's
iteration order.

`exportConfig_reads_back` is the round trip: in every table the writers can build, when no
domain holds `>` or a newline and no target a newline, reading the export line by line and
splitting each line at its first ` -> ` gives back exactly the table's keys, each once,
with their targets, in iteration order. The route's `path_prefix` and `priority` are not
written, so the export does not say how a table routes a wildcard. The condition on the
domains is what makes the first ` -> ` the separator (`splitArrow_line`): a domain ending
in ` ->` moves it, and a newline in a domain or a target splits a route over two lines.
-/

namespace SentraLab.Interception

namespace RoutingTable

/-- `get_routes`: the map's values, in iteration order. -/
def getRoutes (t : RoutingTable) : List Route := t.routes.map (·.2)

/-- `export_config`: the header, then `domain -> target` for each route of the map. -/
def exportConfig (t : RoutingTable) : String :=
  t.routes.foldl (fun output e => output ++ String.mk e.2.domain ++ " -> " ++ e.2.target ++ "\n")
    "# Sentra Lab Routing Table\n\n"

/-- In every reachable table each entry is stored under its route's domain. -/
theorem Reachable.key_eq_domain {t : RoutingTable} (h : Reachable t) :
    ∀ e ∈ t.routes, e.1 = e.2.domain := by
  induction h with
  | new => nofun
  | add route _ ih =>
    intro e he
    rcases List.mem_append.mp he with he | he
    · exact ih e (List.mem_filter.mp he).1
    · rw [List.mem_singleton.mp he]
  | remove domain _ hr ih =>
    rw [removeRoute_eq_ok hr]
    exact fun e he => ih e (List.mem_filter.mp he).1
  | clear => nofun
  | reorder _ hp ih => exact fun e he => ih e (hp.symm.subset he)

/-! ## Reading the export back -/

/-- Not from the source: the header `export_config` starts with. -/
def configHeader : List Char := "# Sentra Lab Routing Table\n\n".toList

/-- Not from the source: the lines of a text whose every line ends with a newline, `cur`
being the line read so far; `none` when the last line has no newline. -/
def readLines : List Char → List Char → Option (List (List Char))
  | [], [] => some []
  | [], _ :: _ => none
  | c :: rest, cur => if c = '\n' then (readLines rest []).map (cur :: ·) else readLines rest (cur ++ [c])

/-- Not from the source: a line split at its first ` -> `. -/
def splitArrow : List Char → Option (List Char × List Char)
  | [] => none
  | c :: rest =>
    if [' ', '-', '>', ' '].isPrefixOf (c :: rest) then some ([], rest.drop 3)
    else (splitArrow rest).map fun p => (c :: p.1, p.2)

/-- Not from the source: the reader of `export_config`'s text, each line a domain and a
target. -/
def readConfig (text : String) : Option (List (List Char × List Char)) :=
  if configHeader.isPrefixOf text.toList then
    (readLines (text.toList.drop configHeader.length) []).bind (·.mapM splitArrow)
  else none

/-- `mapM` in `Option` of a mapped list returns `g` of each element when each one gives it. -/
theorem mapM_map_eq_some {α β γ : Type} {f : α → Option β} {h : γ → α} {g : γ → β} :
    ∀ {l : List γ}, (∀ c ∈ l, f (h c) = some (g c)) → (l.map h).mapM f = some (l.map g)
  | [], _ => rfl
  | c :: l, hl => by
    rw [List.map_cons, List.mapM_cons, hl c (List.mem_cons_self _ _),
      mapM_map_eq_some fun c' hc' => hl c' (List.mem_cons_of_mem _ hc')]
    rfl

/-- The line `export_config` writes for an entry. -/
def configLine (e : List Char × Route) : List Char :=
  e.2.domain ++ " -> ".toList ++ e.2.target.toList

/-- The export is the header followed by each entry's line and a newline. -/
theorem exportConfig_toList (t : RoutingTable) :
    (exportConfig t).toList = configHeader ++ (t.routes.map fun e => configLine e ++ ['\n']).flatten := by
  suffices h : ∀ (l : List (List Char × Route)) (acc : String),
      (l.foldl (fun output e => output ++ String.mk e.2.domain ++ " -> " ++ e.2.target ++ "\n")
        acc).toList = acc.toList ++ (l.map fun e => configLine e ++ ['\n']).flatten from
    h t.routes _
  intro l
  induction l with
  | nil => simp
  | cons e l ih =>
    intro acc
    rw [List.foldl_cons, ih]
    simp [configLine, String.toList]

/-- Reading a line and its newline. -/
theorem readLines_line {line : List Char} (hl : '\n' ∉ line) (rest cur : List Char) :
    readLines (line ++ '\n' :: rest) cur = (readLines rest []).map ((cur ++ line) :: ·) := by
  induction line generalizing cur with
  | nil => simp [readLines]
  | cons c line ih =>
    have hc : c ≠ '\n' := fun h => hl (h ▸ List.mem_cons_self _ _)
    rw [List.cons_append, readLines, if_neg hc, ih (fun h => hl (List.mem_cons_of_mem _ h))]
    simp

/-- Reading lines that hold no newline, each followed by one. -/
theorem readLines_lines : ∀ {ls : List (List Char)}, (∀ l ∈ ls, '\n' ∉ l) →
    readLines (ls.map (· ++ ['\n'])).flatten [] = some ls
  | [], _ => rfl
  | l :: ls, h => by
    rw [List.map_cons, List.flatten_cons, List.append_assoc, List.singleton_append,
      readLines_line (h l (List.mem_cons_self _ _)),
      readLines_lines fun l' hl' => h l' (List.mem_cons_of_mem _ hl')]
    rfl

/-- With no `>` in the domain, the first ` -> ` of a line is the one after the domain. -/
theorem splitArrow_line {d : List Char} (hd : '>' ∉ d) (target : List Char) :
    splitArrow (d ++ " -> ".toList ++ target) = some (d, target) := by
  induction d with
  | nil => simp [splitArrow]
  | cons c d ih =>
    have hd' : '>' ∉ d := fun h => hd (List.mem_cons_of_mem _ h)
    have hno : [' ', '-', '>', ' '].isPrefixOf (c :: (d ++ " -> ".toList ++ target)) = false := by
      match d, hd' with
      | [], _ => simp [List.isPrefixOf]
      | [_], _ => simp [List.isPrefixOf]
      | _ :: c₃ :: _, h => simp only [List.mem_cons, not_or] at h; simp [List.isPrefixOf, h.2.1]
    rw [List.cons_append, List.cons_append, splitArrow, hno, if_neg Bool.false_ne_true, ih hd']
    rfl

/-- In every table the writers can build, whatever the map's iteration order: when no
domain holds `>` or a newline and no target a newline, the text `export_config` writes
reads back, line by line and split at each line's first ` -> `, as exactly the table's
keys with their targets, in iteration order, each key once. `path_prefix` and `priority`
are not in the text. -/
theorem exportConfig_reads_back {t : RoutingTable} (ht : Reachable t)
    (hd : ∀ e ∈ t.routes, '>' ∉ e.2.domain ∧ '\n' ∉ e.2.domain ∧ '\n' ∉ e.2.target.toList) :
    readConfig (exportConfig t) = some (t.routes.map fun e => (e.1, e.2.target.toList)) ∧
      t.keys.Nodup := by
  refine ⟨?_, ht.keys_nodup⟩
  have hlines : ∀ l ∈ t.routes.map configLine, '\n' ∉ l := by
    intro l hl
    obtain ⟨e, he, rfl⟩ := List.mem_map.mp hl
    simp only [configLine, List.mem_append, not_or]
    exact ⟨⟨(hd e he).2.1, by decide⟩, (hd e he).2.2⟩
  have hflat : (t.routes.map fun e => configLine e ++ ['\n']).flatten =
      ((t.routes.map configLine).map (· ++ ['\n'])).flatten := by
    rw [List.map_map]; rfl
  rw [readConfig, exportConfig_toList, if_pos (List.isPrefixOf_iff_prefix.mpr ⟨_, rfl⟩),
    List.drop_left, hflat, readLines_lines hlines, Option.some_bind]
  refine mapM_map_eq_some fun e he => ?_
  rw [configLine, splitArrow_line (hd e he).1, ht.key_eq_domain e he]

/-- The five default routes read back from their export. -/
theorem exportConfig_reads_back_defaults :
    Reachable withDefaults ∧
      (∀ e ∈ withDefaults.routes, '>' ∉ e.2.domain ∧ '\n' ∉ e.2.domain ∧ '\n' ∉ e.2.target.toList) ∧
      (readConfig (exportConfig withDefaults) =
          some (withDefaults.routes.map fun e => (e.1, e.2.target.toList)) ∧
        withDefaults.keys.Nodup) := by
  have ht : Reachable withDefaults := .add _ (.add _ (.add _ (.add _ (.add _ .new))))
  have hd : ∀ e ∈ withDefaults.routes,
      '>' ∉ e.2.domain ∧ '\n' ∉ e.2.domain ∧ '\n' ∉ e.2.target.toList := by decide
  exact ⟨ht, hd, exportConfig_reads_back ht hd⟩

end RoutingTable

end SentraLab.Interception
