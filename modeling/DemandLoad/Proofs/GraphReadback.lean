import DemandLoad.Loader
import DemandLoad.Proofs.TrackerOperations

/-!
A drawn graph can be read back. The reader takes the quoted names out of the text first, then breaks the rest
into lines and reads each as a node, a missing dependency or an edge.
-/

namespace DemandLoad

namespace Drawing

/-- A name between quotes, or a character outside of them. -/
inductive Token where
  | name (text : String)
  | mark (character : Char)
  deriving DecidableEq, Repr

def Token.marks (text : String) : List Token := text.toList.map .mark

/-- The state of the reader: outside of quotes, or inside with a part of a name read, possibly just after a
backslash. -/
inductive Reading where
  | outside
  | within (read : List Char)
  | escaped (read : List Char)

/-- Between quotes a backslash makes the next character stand for itself. -/
def tokens : Reading → List Char → Option (List Token)
  | .outside, [] => some []
  | .within _, [] | .escaped _, [] => none
  | .outside, character :: rest =>
    if character = '"' then tokens (.within []) rest
    else (tokens .outside rest).map (.mark character :: ·)
  | .within read, character :: rest =>
    if character = '"' then (tokens .outside rest).map (.name (String.ofList read) :: ·)
    else if character = '\\' then tokens (.escaped read) rest
    else tokens (.within (read ++ [character])) rest
  | .escaped read, character :: rest => tokens (.within (read ++ [character])) rest

def lines (line : List Token) : List Token → Option (List (List Token))
  | [] => if line = [] then some [] else none
  | token :: rest =>
    if token = .mark '\n' then (lines [] rest).map (line :: ·) else lines (line ++ [token]) rest

inductive Entry where
  | node (name : String) (state : NodeState)
  | missing (name : String)
  | edge (library dependency : String)
  deriving DecidableEq, Repr

namespace Entry

def ofLine : List Token → Option Entry
  | [.mark '\t', .name library, .mark ' ', .mark '-', .mark '>', .mark ' ', .name dependency, .mark ';'] =>
    some (.edge library dependency)
  | .mark '\t' :: .name name :: attributes =>
    if attributes = Token.marks " [color=red];" then some (.node name .failed)
    else if attributes = Token.marks " [style=filled];" then some (.node name .loaded)
    else if attributes = Token.marks " [style=bold];" then some (.node name .loading)
    else if attributes = Token.marks " [style=solid];" then some (.node name .unloaded)
    else if attributes = Token.marks " [style=dashed];" then some (.missing name)
    else none
  | _ => none

/-- The entries up to the line that closes the graph, which must be the last one. -/
def ofLines : List (List Token) → Option (List Entry)
  | [] => none
  | [last] => if last = Token.marks "\x7d" then some [] else none
  | line :: rest => (ofLine line).bind fun entry => (ofLines rest).map (entry :: ·)

def node? : Entry → Option (String × NodeState)
  | node name state => some (name, state)
  | _ => none

def missing? : Entry → Option String
  | missing name => some name
  | _ => none

def edge? : Entry → Option (String × String)
  | edge library dependency => some (library, dependency)
  | _ => none

end Entry

def ofEntries (entries : List Entry) : Drawing :=
  ⟨entries.filterMap Entry.node?, entries.filterMap Entry.missing?, entries.filterMap Entry.edge?⟩

def ofLines : List (List Token) → Option Drawing
  | first :: second :: body =>
    if first = Token.marks "digraph Libraries \x7b" ∧ second = Token.marks "\tnode [shape=box];" then
      (Entry.ofLines body).map ofEntries
    else none
  | _ => none

def read (text : String) : Option Drawing :=
  ((tokens .outside text.toList).bind (lines [])).bind ofLines

def escapeAll (special : Char) (text : List Char) : List Char :=
  text.flatMap fun character => if character = special then ['\\', character] else [character]

/-- Escaping all backslashes and then all quotes is the same as escaping both in one pass. -/
theorem escapeAll_in_turn (name : List Char) :
    escapeAll '"' (escapeAll '\\' name) = name.flatMap escapeChar := by
  rw [escapeAll, escapeAll, List.flatMap_assoc]
  congr 1
  funext character
  unfold escapeChar
  by_cases slash : character = '\\'
  · subst slash
    rfl
  · by_cases quote : character = '"' <;> simp [slash, quote]

def Spells (characters : List Char) (spelled : List Token) : Prop :=
  ∀ rest, tokens .outside (characters ++ rest) = (tokens .outside rest).map (spelled ++ ·)

namespace Spells

variable {characters more : List Char} {spelled further : List Token}

theorem append (first : Spells characters spelled) (second : Spells more further) :
    Spells (characters ++ more) (spelled ++ further) := by
  intro rest
  rw [List.append_assoc, first, second, Option.map_map]
  simp [Function.comp_def]

theorem cast {other : List Token} (spells : Spells characters spelled) (same : spelled = other) :
    Spells characters other := same ▸ spells

theorem plain (characters : List Char) (unquoted : '"' ∉ characters) :
    Spells characters (characters.map .mark) := by
  induction characters with
  | nil => exact fun rest => by simp
  | cons character characters ih =>
      intro rest
      obtain ⟨apart, others⟩ := not_or.mp (mt List.mem_cons.mpr unquoted)
      rw [List.cons_append, tokens, if_neg (Ne.symm apart), ih others rest, Option.map_map]
      rfl

theorem read_escapeChar (read : List Char) (character : Char) (rest : List Char) :
    tokens (.within read) (Drawing.escapeChar character ++ rest) =
      tokens (.within (read ++ [character])) rest := by
  unfold Drawing.escapeChar
  split
  case isTrue special => rfl
  case isFalse common =>
    obtain ⟨slash, quote⟩ := not_or.mp common
    simp [tokens, slash, quote]

theorem read_escaped (read name : List Char) (rest : List Char) :
    tokens (.within read) (name.flatMap Drawing.escapeChar ++ rest) = tokens (.within (read ++ name)) rest := by
  induction name generalizing read with
  | nil => simp
  | cons character name ih =>
      rw [List.flatMap_cons, List.append_assoc, read_escapeChar, ih, List.append_assoc]
      rfl

theorem quotedName (name : String) : Spells (Drawing.quotedName name) [.name name] := by
  intro rest
  have opened : Drawing.quotedName name ++ rest =
      '"' :: (name.toList.flatMap Drawing.escapeChar ++ ('"' :: rest)) := by
    simp [Drawing.quotedName]
  rw [opened, tokens, if_pos rfl, read_escaped, tokens, if_pos rfl, List.nil_append, String.ofList_toList]
  rfl

end Spells

/-- A name that ends in a backslash, after what looks like the end of a quoted name and of its line. -/
example : tokens .outside (quotedName "a\";\n\t\"\\") = some [.name "a\";\n\t\"\\"] := by decide

def Prints (characters : List Char) (printed : List (List Token)) : Prop :=
  ∀ rest, (tokens .outside (characters ++ rest)).bind (lines []) =
    ((tokens .outside rest).bind (lines [])).map (printed ++ ·)

theorem lines_append (line spelled rest : List Token) (unbroken : .mark '\n' ∉ spelled) :
    lines line (spelled ++ .mark '\n' :: rest) = (lines [] rest).map ((line ++ spelled) :: ·) := by
  induction spelled generalizing line with
  | nil => simp [lines]
  | cons token spelled ih =>
      obtain ⟨apart, others⟩ := not_or.mp (mt List.mem_cons.mpr unbroken)
      rw [List.cons_append, lines, if_neg (Ne.symm apart), ih _ others, List.append_assoc]
      rfl

namespace Prints

variable {characters more : List Char} {printed further : List (List Token)} {α : Type}

theorem line {spelled : List Token} (spells : Spells characters (spelled ++ [.mark '\n']))
    (unbroken : .mark '\n' ∉ spelled) : Prints characters [spelled] := by
  intro rest
  rw [spells rest]
  cases tokens .outside rest with
  | none => rfl
  | some following =>
      simp only [Option.map_some, Option.bind_some, List.append_assoc, List.singleton_append]
      exact lines_append [] spelled following unbroken

theorem append (first : Prints characters printed) (second : Prints more further) :
    Prints (characters ++ more) (printed ++ further) := by
  intro rest
  rw [List.append_assoc, first, second, Option.map_map]
  simp [Function.comp_def]

theorem flatMap (items : List α) {spell : α → List Char} {spelled : α → List Token}
    (each : ∀ item, Prints (spell item) [spelled item]) :
    Prints (items.flatMap spell) (items.map spelled) := by
  induction items with
  | nil => exact fun rest => by simp
  | cons item items ih => exact (each item).append ih

end Prints

def nodeTokens (name style : String) : List Token :=
  [.mark '\t', .name name] ++ Token.marks " [" ++ Token.marks style ++ Token.marks "];"

def edgeTokens (library dependency : String) : List Token :=
  [.mark '\t', .name library] ++ Token.marks " -> " ++ [.name dependency, .mark ';']

theorem prints_nodeLine (name style : String) (unquoted : '"' ∉ style.toList)
    (unbroken : '\n' ∉ style.toList) : Prints (nodeLine name style) [nodeTokens name style] := by
  have named : Spells ('\t' :: quotedName name) [.mark '\t', .name name] :=
    (Spells.plain ['\t'] (by decide)).append (.quotedName name)
  have styled := ((named.append (.plain [' ', '['] (by decide))).append (.plain _ unquoted)).append
    (.plain [']', ';', '\n'] (by decide))
  refine Prints.line (styled.cast ?_) ?_
  · simp [nodeTokens, Token.marks]
  · simp [nodeTokens, Token.marks, unbroken]

theorem prints_edgeLine (library dependency : String) :
    Prints (edgeLine library dependency) [edgeTokens library dependency] := by
  have source : Spells ('\t' :: quotedName library) [.mark '\t', .name library] :=
    (Spells.plain ['\t'] (by decide)).append (.quotedName library)
  have pointed := ((source.append (.plain " -> ".toList (by decide))).append
    (.quotedName dependency)).append (.plain [';', '\n'] (by decide))
  refine Prints.line (pointed.cast ?_) ?_
  · simp [edgeTokens, Token.marks]
  · simp [edgeTokens, Token.marks]

theorem unquoted_style (state : NodeState) : '"' ∉ state.style.toList := by
  cases state <;> decide

theorem unbroken_style (state : NodeState) : '\n' ∉ state.style.toList := by
  cases state <;> decide

def body (drawing : Drawing) : List (List Token) :=
  drawing.nodes.map (fun node => nodeTokens node.1 node.2.style) ++
    drawing.missing.map (nodeTokens · "style=dashed") ++
    drawing.edges.map fun edge => edgeTokens edge.1 edge.2

theorem prints_plain (text : String) (unquoted : '"' ∉ text.toList) (unbroken : '\n' ∉ text.toList) :
    Prints (text.toList ++ ['\n']) [Token.marks text] := by
  refine Prints.line ((Spells.plain _ unquoted).append (.plain ['\n'] (by decide))) ?_
  simpa [Token.marks] using unbroken

theorem prints_characters (drawing : Drawing) : Prints drawing.characters
    (Token.marks "digraph Libraries \x7b" :: Token.marks "\tnode [shape=box];" ::
      (drawing.body ++ [Token.marks "\x7d"])) := by
  have opening_eq : opening.toList =
      ("digraph Libraries \x7b".toList ++ ['\n']) ++ ("\tnode [shape=box];".toList ++ ['\n']) := by decide
  have closing_eq : closing.toList = "\x7d".toList ++ ['\n'] := by decide
  have opened := (prints_plain "digraph Libraries \x7b" (by decide) (by decide)).append
    (prints_plain "\tnode [shape=box];" (by decide) (by decide))
  have nodes := Prints.flatMap drawing.nodes fun node =>
    prints_nodeLine node.1 _ (unquoted_style node.2) (unbroken_style node.2)
  have missing := Prints.flatMap drawing.missing fun name =>
    prints_nodeLine name "style=dashed" (by decide) (by decide)
  have edges := Prints.flatMap drawing.edges fun edge => prints_edgeLine edge.1 edge.2
  have all := (((opened.append nodes).append missing).append edges).append
    (prints_plain "\x7d" (by decide) (by decide))
  rw [characters, opening_eq, closing_eq]
  simpa [body] using all

theorem ofLine_node (name : String) (state : NodeState) :
    Entry.ofLine (nodeTokens name state.style) = some (.node name state) := by
  cases state <;> rfl

theorem ofLine_missing (name : String) :
    Entry.ofLine (nodeTokens name "style=dashed") = some (.missing name) := rfl

theorem ofLine_edge (library dependency : String) :
    Entry.ofLine (edgeTokens library dependency) = some (.edge library dependency) := rfl

def entries (drawing : Drawing) : List Entry :=
  drawing.nodes.map (fun node => .node node.1 node.2) ++ drawing.missing.map .missing ++
    drawing.edges.map fun edge => .edge edge.1 edge.2

theorem ofEntries_entries (drawing : Drawing) : ofEntries drawing.entries = drawing := by
  have skipped : ∀ {α β : Type} (items : List α), items.filterMap (fun _ => (none : Option β)) = [] :=
    fun _ => List.filterMap_eq_nil_iff.mpr fun _ _ => rfl
  have nodes : drawing.entries.filterMap Entry.node? = drawing.nodes := by
    simp [entries, Entry.node?, Function.comp_def, skipped]
  have missing : drawing.entries.filterMap Entry.missing? = drawing.missing := by
    simp [entries, Entry.missing?, Function.comp_def, skipped]
  have edges : drawing.entries.filterMap Entry.edge? = drawing.edges := by
    simp [entries, Entry.edge?, Function.comp_def, skipped]
  rw [ofEntries, nodes, missing, edges]

theorem ofLines_append (spelled : List (List Token)) (entries : List Entry)
    (each : spelled.map Entry.ofLine = entries.map some) :
    Entry.ofLines (spelled ++ [Token.marks "\x7d"]) = some entries := by
  induction spelled generalizing entries with
  | nil =>
      cases List.map_eq_nil_iff.mp each.symm
      exact if_pos rfl
  | cons line spelled ih =>
      obtain ⟨entry, others, rfl, first, rest⟩ := List.map_eq_cons_iff.mp each.symm
      have further := ih others rest.symm
      -- The closing line is still to come, so that this one is read as an entry.
      obtain ⟨next, after, split⟩ := List.exists_cons_of_ne_nil
        (List.append_ne_nil_of_right_ne_nil spelled (List.cons_ne_nil (Token.marks "\x7d") []))
      rw [split] at further
      rw [List.cons_append, split, Entry.ofLines, ← first, further]
      · rfl
      · exact List.cons_ne_nil _ _

theorem map_ofLine_body (drawing : Drawing) : drawing.body.map Entry.ofLine = drawing.entries.map some := by
  simp only [body, entries, List.map_append, List.map_map, Function.comp_def, ofLine_node, ofLine_missing,
    ofLine_edge]

/-- Reading the text of a drawing gives the drawing. -/
theorem read_render (drawing : Drawing) : read drawing.render = some drawing := by
  have printed := prints_characters drawing []
  have ended : (tokens .outside []).bind (lines []) = some [] := rfl
  rw [List.append_nil, ended, Option.map_some, List.append_nil] at printed
  rw [read, render, String.toList_ofList, printed, Option.bind_some, ofLines, if_pos ⟨rfl, rfl⟩,
    ofLines_append _ _ drawing.map_ofLine_body, Option.map_some, ofEntries_entries]

def dependencies (drawing : Drawing) (name : String) : List String :=
  (drawing.edges.filter fun edge => edge.1 = name).map Prod.snd

/-- The state in which a library is drawn: failed if it has failed, and otherwise its status. -/
inductive DrawnAs (loader : Loader) (name : String) : NodeState → Prop
  | failed (failed : loader.isFailed name = true) : DrawnAs loader name .failed
  | loaded (sound : loader.isFailed name = false) (status : loader.status name = .loaded) :
      DrawnAs loader name .loaded
  | loading (sound : loader.isFailed name = false) (status : loader.status name = .loading) :
      DrawnAs loader name .loading
  | unloaded (sound : loader.isFailed name = false) (status : loader.status name = .unloaded) :
      DrawnAs loader name .unloaded

/-- The drawing has one node for each declared library, one for each undeclared dependency, and one edge for
each mention of a dependency, all in their order. -/
structure Shows (drawing : Drawing) (loader : Loader) : Prop where
  names : drawing.nodes.map Prod.fst = loader.registry.names
  states : ∀ name state, (name, state) ∈ drawing.nodes → DrawnAs loader name state
  edges : drawing.edges = loader.registry.names.flatMap fun name =>
    ((loader.registry.dependencies? name).getD []).map (name, ·)
  dependencies : ∀ name, drawing.dependencies name = (loader.registry.dependencies? name).getD []
  nodup_missing : drawing.missing.Nodup
  mem_missing : ∀ name, name ∈ drawing.missing ↔ name ∉ loader.registry.names ∧
    ∃ library dependencies, loader.registry.dependencies? library = some dependencies ∧ name ∈ dependencies
  missing_order : drawing.missing.Pairwise fun first second =>
    (drawing.edges.map Prod.snd).idxOf first < (drawing.edges.map Prod.snd).idxOf second

theorem edges_ofLibraries {τ : Type} (registry : Registry τ) (tracker : Tracker) :
    (ofLibraries registry tracker).edges =
      registry.names.flatMap fun name => ((registry.dependencies? name).getD []).map (name, ·) := by
  rw [Registry.names, Table.keys, List.flatMap_map, ofLibraries, List.flatMap_def, List.flatMap_def]
  refine congrArg List.flatten (List.map_congr_left ?_)
  intro row member
  rw [Registry.dependencies?, Registry.lookup?, Table.get?_of_mem _ member]
  rfl

theorem mentions_ofLibraries {τ : Type} (registry : Registry τ) (tracker : Tracker) :
    (ofLibraries registry tracker).edges.map Prod.snd = registry.records.flatMap Library.dependencies := by
  simp [ofLibraries, Registry.records, Table.values, List.map_flatMap, List.flatMap_map, Function.comp_def]

theorem filter_flatMap_pairs (names : List String) (distinct : names.Nodup) (targets : String → List String)
    (name : String) :
    ((names.flatMap fun source => (targets source).map (source, ·)).filter fun edge => edge.1 = name).map
      Prod.snd = if name ∈ names then targets name else [] := by
  induction names with
  | nil => rfl
  | cons source names ih =>
      obtain ⟨absent, others⟩ := List.nodup_cons.mp distinct
      rw [List.flatMap_cons, List.filter_append, List.map_append, ih others, List.filter_map, List.map_map]
      by_cases same : source = name
      · subst same
        simp [absent, Function.comp_def]
      · have apart : name ≠ source := Ne.symm same
        simp [same, apart, Function.comp_def]

theorem pairwise_idxOf_eraseDups (names : List String) (kept : String → Bool) :
    (names.filter kept).eraseDups.Pairwise fun first second => names.idxOf first < names.idxOf second := by
  induction names generalizing kept with
  | nil => exact .nil
  | cons name names ih =>
      have later : ∀ {others : List String}, name ∉ others →
          (others.Pairwise fun first second => names.idxOf first < names.idxOf second) →
          others.Pairwise fun first second => (name :: names).idxOf first < (name :: names).idxOf second := by
        intro others absent ordered
        refine ordered.imp_of_mem ?_
        intro first second early late before
        have apart : ∀ other ∈ others, name ≠ other := by
          rintro other member rfl
          exact absent member
        simp only [List.idxOf_cons, beq_false_of_ne (apart first early), beq_false_of_ne (apart second late),
          cond_false]
        exact Nat.succ_lt_succ before
      by_cases keeps : kept name = true
      · rw [List.filter_cons_of_pos keeps, List.eraseDups_cons, List.filter_filter]
        have absent : name ∉ (names.filter fun other => !other == name && kept other).eraseDups := by
          simp
        refine List.pairwise_cons.mpr ⟨?_, later absent (ih _)⟩
        intro other member
        have apart : name ≠ other := by
          rintro rfl
          exact absent member
        simp only [List.idxOf_cons, beq_self_eq_true, beq_false_of_ne apart, cond_true, cond_false]
        exact Nat.succ_pos _
      · rw [List.filter_cons_of_neg keeps]
        exact later (by simp [keeps]) (ih _)

theorem dependencies?_eq_none {τ : Type} (registry : Registry τ) (name : String) :
    registry.dependencies? name = none ↔ name ∉ registry.names :=
  Option.map_eq_none_iff.trans (registry.lookup?_eq_none name)

theorem mem_mentions {τ : Type} (registry : Registry τ) (name : String) :
    name ∈ registry.records.flatMap Library.dependencies ↔
      ∃ library dependencies, registry.dependencies? library = some dependencies ∧ name ∈ dependencies := by
  rw [← mentions_ofLibraries registry .empty, edges_ofLibraries]
  simp only [List.mem_map, List.mem_flatMap]
  constructor
  · rintro ⟨_, ⟨library, -, dependency, mentioned, rfl⟩, rfl⟩
    cases found : registry.dependencies? library with
    | none => rw [found] at mentioned; cases mentioned
    | some dependencies => exact ⟨library, dependencies, found, by simpa [found] using mentioned⟩
  · rintro ⟨library, dependencies, found, mentioned⟩
    have known : library ∈ registry.names := by
      refine Classical.not_not.mp fun absent => ?_
      cases found.symm.trans ((dependencies?_eq_none registry library).mpr absent)
    exact ⟨(library, name), ⟨library, known, name, by simpa [found] using mentioned, rfl⟩, rfl⟩

theorem drawnAs_iff (loader : Loader) (name : String) (state : NodeState) :
    DrawnAs loader name state ↔ loader.tracker.nodeState name = state := by
  unfold Tracker.nodeState
  constructor
  · intro drawn
    cases drawn with
    | failed failed => exact if_pos failed
    | loaded sound status | loading sound status | unloaded sound status =>
        rw [Loader.isFailed] at sound
        rw [Loader.status] at status
        rw [sound, status]
        rfl
  · rintro rfl
    cases fails : loader.tracker.isFailed name with
    | true => exact .failed fails
    | false =>
        cases status : loader.tracker.status name with
        | loaded => exact .loaded fails status
        | loading => exact .loading fails status
        | unloaded => exact .unloaded fails status

theorem DrawnAs.isFailed_iff {loader : Loader} {name : String} {state : NodeState}
    (drawn : DrawnAs loader name state) : loader.isFailed name = true ↔ state = .failed := by
  cases drawn with
  | failed failed => exact iff_of_true failed rfl
  | loaded sound | loading sound | unloaded sound => simp [sound]

theorem DrawnAs.status_eq {first second : Loader} {name : String} {state : NodeState}
    (one : DrawnAs first name state) (other : DrawnAs second name state)
    (sound : first.isFailed name = false) : first.status name = second.status name := by
  cases one with
  | failed failed => cases failed.symm.trans sound
  | loaded _ status | loading _ status | unloaded _ status =>
      cases other
      exact status.trans (Eq.symm ‹second.status name = _›)

theorem nodeState_congr {first second : Loader} {name : String}
    (failed : first.isFailed name = second.isFailed name)
    (status : first.isFailed name = false → first.status name = second.status name) :
    first.tracker.nodeState name = second.tracker.nodeState name := by
  rw [Tracker.nodeState, Tracker.nodeState, ← Loader.isFailed, ← Loader.isFailed, ← failed]
  cases fails : first.isFailed name with
  | true => rfl
  | false => rw [← Loader.status, ← Loader.status, status fails]

theorem ofLibraries_shows (loader : Loader) : (ofLibraries loader.registry loader.tracker).Shows loader where
  names := by simp [ofLibraries, Function.comp_def]
  states name state member := by
    obtain ⟨_, -, row⟩ := List.mem_map.mp member
    cases row
    exact (drawnAs_iff ..).mpr rfl
  edges := edges_ofLibraries _ _
  dependencies name := by
    have distinct : loader.registry.names.Nodup := loader.registry.libraries.distinct
    rw [Drawing.dependencies, edges_ofLibraries, filter_flatMap_pairs _ distinct]
    split
    case isTrue => rfl
    case isFalse absent => rw [(dependencies?_eq_none loader.registry name).mpr absent, Option.getD_none]
  nodup_missing := by
    refine (pairwise_idxOf_eraseDups _ _).imp ?_
    rintro first _ before rfl
    exact Nat.lt_irrefl _ before
  mem_missing name := by
    have listed : name ∈ (ofLibraries loader.registry loader.tracker).missing ↔
        name ∈ loader.registry.records.flatMap Library.dependencies ∧
          (!loader.registry.contains name) = true := List.mem_eraseDups.trans List.mem_filter
    rw [listed, mem_mentions, and_comm, ← loader.registry.contains_iff, Bool.not_eq_true', Bool.not_eq_true]
  missing_order := by
    rw [mentions_ofLibraries]
    exact pairwise_idxOf_eraseDups _ _

/-- The loaders declare the same names in the same order, with the same dependencies. The same libraries have
failed, and the others have the same status. -/
structure SameSight (first second : Loader) : Prop where
  names : first.registry.names = second.registry.names
  failed : ∀ name ∈ first.registry.names, first.isFailed name = second.isFailed name
  status : ∀ name ∈ first.registry.names, first.isFailed name = false → first.status name = second.status name
  dependencies : ∀ name, first.registry.dependencies? name = second.registry.dependencies? name

theorem Shows.exists_drawn {drawing : Drawing} {loader : Loader} {name : String} (shows : drawing.Shows loader)
    (declared : name ∈ loader.registry.names) : ∃ state, (name, state) ∈ drawing.nodes := by
  rw [← shows.names] at declared
  obtain ⟨⟨_, state⟩, member, rfl⟩ := List.mem_map.mp declared
  exact ⟨state, member⟩

theorem Shows.sameSight {drawing : Drawing} {first second : Loader} (one : drawing.Shows first)
    (other : drawing.Shows second) : SameSight first second := by
  have names : first.registry.names = second.registry.names := one.names.symm.trans other.names
  refine ⟨names, ?_, ?_, ?_⟩
  · intro name declared
    obtain ⟨state, drawn⟩ := one.exists_drawn declared
    exact Bool.eq_iff_iff.mpr
      ((one.states name state drawn).isFailed_iff.trans (other.states name state drawn).isFailed_iff.symm)
  · intro name declared
    obtain ⟨state, drawn⟩ := one.exists_drawn declared
    exact (one.states name state drawn).status_eq (other.states name state drawn)
  · intro name
    have same := (one.dependencies name).symm.trans (other.dependencies name)
    by_cases known : name ∈ first.registry.names
    · obtain ⟨dependencies, found⟩ := Option.ne_none_iff_exists'.mp
        (mt (dependencies?_eq_none first.registry name).mp (not_not_intro known))
      obtain ⟨others, met⟩ := Option.ne_none_iff_exists'.mp
        (mt (dependencies?_eq_none second.registry name).mp (not_not_intro (names ▸ known)))
      rw [found, met, Option.getD_some, Option.getD_some] at same
      rw [found, met, same]
    · rw [(dependencies?_eq_none first.registry name).mpr known,
        (dependencies?_eq_none second.registry name).mpr (names ▸ known)]

theorem SameSight.ofLibraries_eq {first second : Loader} (same : SameSight first second) :
    ofLibraries first.registry first.tracker = ofLibraries second.registry second.tracker := by
  have nodes : (ofLibraries first.registry first.tracker).nodes =
      (ofLibraries second.registry second.tracker).nodes := by
    simp only [ofLibraries, ← same.names]
    refine List.map_congr_left ?_
    intro name declared
    rw [nodeState_congr (same.failed name declared) (same.status name declared)]
  have edges : (ofLibraries first.registry first.tracker).edges =
      (ofLibraries second.registry second.tracker).edges := by
    simp only [edges_ofLibraries, same.names, same.dependencies]
  have mentions := congrArg (List.map Prod.snd) edges
  rw [mentions_ofLibraries, mentions_ofLibraries] at mentions
  have missing : (ofLibraries first.registry first.tracker).missing =
      (ofLibraries second.registry second.tracker).missing := by
    have known : first.registry.contains = second.registry.contains := by
      funext name
      rw [Bool.eq_iff_iff, first.registry.contains_iff, second.registry.contains_iff, same.names]
    simp only [ofLibraries, mentions, known]
  cases one : ofLibraries first.registry first.tracker
  cases other : ofLibraries second.registry second.tracker
  rw [one, other] at nodes missing edges
  simp only at nodes missing edges
  rw [nodes, missing, edges]

end Drawing

/-- The text of a graph determines the declared names with their states and dependencies, and the undeclared
names, all in their order, and nothing else of the loader. -/
theorem Loader.read_graph (loader : Loader) : ∃ drawing, Drawing.read loader.graph = some drawing ∧
    drawing.Shows loader ∧ ∀ other : Loader, (other.graph = loader.graph ↔ drawing.Shows other) ∧
      (other.graph = loader.graph ↔ Drawing.SameSight loader other) := by
  have shown := Drawing.ofLibraries_shows loader
  refine ⟨_, Drawing.read_render _, shown, ?_⟩
  intro other
  have drawn : other.graph = loader.graph →
      (Drawing.ofLibraries loader.registry loader.tracker).Shows other := by
    intro same
    have read := Drawing.read_render (Drawing.ofLibraries loader.registry loader.tracker)
    have again := Drawing.read_render (Drawing.ofLibraries other.registry other.tracker)
    rw [← graph] at read again
    rw [same, read] at again
    exact Option.some.inj again ▸ Drawing.ofLibraries_shows other
  have alike : Drawing.SameSight loader other → other.graph = loader.graph := by
    intro same
    rw [graph, graph, same.ofLibraries_eq]
  exact ⟨⟨drawn, fun again => alike (shown.sameSight again)⟩, ⟨fun same => shown.sameSight (drawn same), alike⟩⟩

end DemandLoad
