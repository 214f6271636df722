import M8flowCore.Services.ConnectorProxy
/-!
# Operation ids between the registry and the proxy

The registry trims an id and its halves before it looks a command up; the
connector it hands the request to compares the id as it was given. The two agree
on the ids that have nothing to trim. What a connector posts is written as JSON
before anything is sent.
-/
open M8flowCore.Lib

namespace M8flowCore

/-! ## Building and splitting -/

theorem hasSlash_eq_false {text : String} : hasSlash text = false ↔ '/' ∉ text.toList := by
  simp [hasSlash]

theorem hasSlash_strip {text : String} (h : hasSlash text = false) : hasSlash (strip text) = false := by
  rw [hasSlash_eq_false] at h ⊢
  rw [toList_strip]
  exact fun hmem => h (mem_of_mem_trim hmem)

theorem not_mem_of_mem_splitOn {α : Type} [DecidableEq α] {x : α} {l part : List α} (h : part ∈ l.splitOn x) : x ∉ part := by
  induction l generalizing part with
  | nil =>
    rw [List.splitOn_nil, List.mem_singleton] at h
    simp [h]
  | cons y l ih =>
    rw [List.splitOn_cons_eq_if_modifyHead] at h
    split at h
    · rcases List.mem_cons.1 h with rfl | h
      · simp
      · exact ih h
    · rename_i hne
      have hyx : x ≠ y := fun he => hne (by simp [he])
      cases hparts : l.splitOn x with
      | nil => exact absurd hparts (List.splitOn_ne_nil x l)
      | cons first parts =>
        rw [hparts, List.modifyHead_cons] at h
        rcases List.mem_cons.1 h with rfl | h
        · have hfirst : x ∉ first := ih (by simp [hparts])
          simp [hyx, hfirst]
        · exact ih (by simp [hparts, h])

theorem splitSlash_glue {k n : String} (hk : hasSlash k = false) (hn : hasSlash n = false) :
    splitSlash (k ++ "/" ++ n) = [k, n] := by
  rw [hasSlash_eq_false] at hk hn
  have hglue : (k ++ "/" ++ n).toList = k.toList ++ '/' :: n.toList := by simp
  unfold splitSlash
  rw [hglue, List.splitOn_append_cons_self_of_not_mem hk, List.splitOn_eq_singleton hn]
  simp

theorem splitSlash_pair {text k n : String} (h : splitSlash text = [k, n]) :
    text = k ++ "/" ++ n ∧ hasSlash k = false ∧ hasSlash n = false := by
  unfold splitSlash at h
  obtain ⟨k', rest, hparts, rfl, hrest⟩ := List.map_eq_cons_iff.1 h
  obtain ⟨n', _, rfl, rfl, hnil⟩ := List.map_eq_cons_iff.1 hrest
  rw [List.map_eq_nil_iff] at hnil
  subst hnil
  refine ⟨?_, ?_, ?_⟩
  · have htext : ['/'].intercalate (text.toList.splitOn '/') = text.toList := List.intercalate_splitOn '/'
    rw [hparts] at htext
    rw [← String.toList_inj, ← htext]
    simp [List.intercalate]
  · rw [hasSlash_eq_false, String.toList_ofList]
    exact not_mem_of_mem_splitOn (l := text.toList) (by simp [hparts])
  · rw [hasSlash_eq_false, String.toList_ofList]
    exact not_mem_of_mem_splitOn (l := text.toList) (by simp [hparts])

theorem normalizeNonBlank_eq {value : String} (fieldName : String) (h : strip value ≠ "") :
    normalizeNonBlank value fieldName = .ok (strip value) := by
  simp [normalizeNonBlank, h]

/-- A built id is its two trimmed halves. -/
theorem buildServiceTaskOperationId_ok {a b id : String} :
    buildServiceTaskOperationId a b = .ok id ↔ IdHalf (strip a) ∧ IdHalf (strip b) ∧ id = strip a ++ "/" ++ strip b := by
  unfold buildServiceTaskOperationId
  constructor
  · intro h
    cases ha : normalizeNonBlank a "connector_key" with
    | error e =>
      rw [ha] at h
      cases h
    | ok k =>
      cases hb : normalizeNonBlank b "command_name" with
      | error e =>
        rw [ha, hb] at h
        cases h
      | ok n =>
        rw [ha, hb] at h
        obtain ⟨rfl, hk⟩ := normalizeNonBlank_ok ha
        obtain ⟨rfl, hn⟩ := normalizeNonBlank_ok hb
        simp only [bind, Except.bind] at h
        split at h
        · cases h
        · rename_i hka
          split at h
          · cases h
          · rename_i hnb
            cases h
            exact ⟨⟨strip_strip a, hk, Bool.eq_false_iff.2 hka⟩, ⟨strip_strip b, hn, Bool.eq_false_iff.2 hnb⟩, rfl⟩
  · rintro ⟨hk, hn, rfl⟩
    rw [normalizeNonBlank_eq _ hk.nonBlank, normalizeNonBlank_eq _ hn.nonBlank]
    simp [bind, Except.bind, hk.slashless, hn.slashless]

/-- An id that is split is, once trimmed, its two parts. -/
theorem splitServiceTaskOperationId_ok {id k n : String} :
    splitServiceTaskOperationId id = .ok (k, n) ↔
      strip id = k ++ "/" ++ n ∧ hasSlash k = false ∧ hasSlash n = false ∧ strip k ≠ "" ∧ strip n ≠ "" := by
  unfold splitServiceTaskOperationId
  constructor
  · intro h
    cases hid : normalizeNonBlank id "operation_id" with
    | error e =>
      rw [hid] at h
      cases h
    | ok text =>
      rw [hid] at h
      obtain ⟨rfl, -⟩ := normalizeNonBlank_ok hid
      simp only [bind, Except.bind] at h
      split at h
      · rename_i k' n' hparts
        split at h
        · rename_i hblank
          cases h
          obtain ⟨htext, hk, hn⟩ := splitSlash_pair hparts
          exact ⟨htext, hk, hn, hblank⟩
        · cases h
      · cases h
  · rintro ⟨htext, hk, hn, hblank⟩
    have hne : strip id ≠ "" := by
      intro hempty
      have hlength := congrArg (fun s : String => s.toList.length) (htext.symm.trans hempty)
      simp at hlength
    rw [normalizeNonBlank_eq _ hne]
    simp only [bind, Except.bind, htext, splitSlash_glue hk hn]
    rw [if_pos hblank]

theorem IdHalf.strip_glue {k n : String} (hk : IdHalf k) (hn : IdHalf n) : strip (k ++ "/" ++ n) = k ++ "/" ++ n :=
  M8flowCore.strip_glue hk.trimmed hn.trimmed (show "/".toList = ['/'] by simp) (by decide)

theorem IdHalf.build {k n : String} (hk : IdHalf k) (hn : IdHalf n) :
    buildServiceTaskOperationId k n = .ok (k ++ "/" ++ n) := by
  rw [buildServiceTaskOperationId_ok, hk.trimmed, hn.trimmed]
  exact ⟨hk, hn, rfl⟩

theorem IdHalf.split {k n : String} (hk : IdHalf k) (hn : IdHalf n) :
    splitServiceTaskOperationId (k ++ "/" ++ n) = .ok (k, n) := by
  rw [splitServiceTaskOperationId_ok, hk.strip_glue hn, hk.trimmed, hn.trimmed]
  exact ⟨rfl, hk.slashless, hn.slashless, hk.nonBlank, hn.nonBlank⟩

/-- Splitting undoes building. -/
theorem split_build {a b id : String} (h : buildServiceTaskOperationId a b = .ok id) :
    splitServiceTaskOperationId id = .ok (strip a, strip b) := by
  obtain ⟨ha, hb, rfl⟩ := buildServiceTaskOperationId_ok.1 h
  exact ha.split hb

theorem IdHalf.path {k n : String} (hk : IdHalf k) (hn : IdHalf n) :
    buildConnectorProxyExecutePath k n = .ok ("/v1/do/" ++ k ++ "/" ++ n) := by
  unfold buildConnectorProxyExecutePath
  rw [hk.build hn]
  simp only [bind, Except.bind, hk.split hn]

/-- What both parts of a split id are once trimmed. -/
theorem idHalf_of_split {id k n : String} (h : splitServiceTaskOperationId id = .ok (k, n)) :
    IdHalf (strip k) ∧ IdHalf (strip n) := by
  obtain ⟨-, hk, hn, hkblank, hnblank⟩ := splitServiceTaskOperationId_ok.1 h
  exact ⟨⟨strip_strip k, hkblank, hasSlash_strip hk⟩, ⟨strip_strip n, hnblank, hasSlash_strip hn⟩⟩

/-- No white space at either end of an id, nor next to its slash. -/
def Spaceless (id : String) : Prop := strip id = id ∧ ∀ part ∈ splitSlash id, strip part = part

theorem spaceless_iff {id k n : String} (h : splitServiceTaskOperationId id = .ok (k, n)) :
    Spaceless id ↔ id = strip k ++ "/" ++ strip n := by
  obtain ⟨hid, hk, hn, -, -⟩ := splitServiceTaskOperationId_ok.1 h
  obtain ⟨hk', hn'⟩ := idHalf_of_split h
  constructor
  · rintro ⟨htrim, hparts⟩
    rw [htrim] at hid
    rw [hid, splitSlash_glue hk hn] at hparts
    rw [hparts k (by simp), hparts n (by simp)]
    exact hid
  · rintro rfl
    refine ⟨hk'.strip_glue hn', fun part hpart => ?_⟩
    rw [splitSlash_glue hk'.slashless hn'.slashless] at hpart
    rcases List.mem_cons.1 hpart with rfl | hpart
    · exact strip_strip k
    · rw [List.mem_singleton.1 hpart]
      exact strip_strip n

/-! ## Commands by id -/

namespace ServiceTaskCommandDefinition

/-- The id of a command. -/
def id (c : ServiceTaskCommandDefinition) : String := c.connectorKey ++ "/" ++ c.commandName

theorem operationId_eq (c : ServiceTaskCommandDefinition) : c.operationId = .ok c.id := c.key.build c.name

theorem split_id (c : ServiceTaskCommandDefinition) : splitServiceTaskOperationId c.id = .ok (c.connectorKey, c.commandName) :=
  c.key.split c.name

theorem id_inj {c : ServiceTaskCommandDefinition} {k n : String} (hk : IdHalf k) (hn : IdHalf n) (h : c.id = k ++ "/" ++ n) :
    c.connectorKey = k ∧ c.commandName = n := by
  have hsplit := c.split_id
  rw [h, hk.split hn] at hsplit
  cases hsplit
  exact ⟨rfl, rfl⟩

end ServiceTaskCommandDefinition

variable {commands : List ServiceTaskCommandDefinition}

theorem findCommand_eq {k n : String} (hk : IdHalf (strip k)) (hn : IdHalf (strip n)) :
    ServiceTaskRegistry.findCommand k n commands = .ok (commands.find? fun c => c.id = strip k ++ "/" ++ strip n) := by
  have hbuild := buildServiceTaskOperationId_ok.2 ⟨hk, hn, rfl⟩
  induction commands with
  | nil => rfl
  | cons c commands ih =>
    unfold ServiceTaskRegistry.findCommand
    rw [c.operationId_eq, hbuild, List.find?_cons]
    simp only [bind, Except.bind]
    by_cases hid : c.id = strip k ++ "/" ++ strip n
    · simp [hid]
    · simp [hid, ih]

/-- The commands of a connector by their ids. -/
def commandsById (commands : List ServiceTaskCommandDefinition) : List (String × ServiceTaskCommandDefinition) :=
  commands.foldl (fun byId c => put c.id c byId) []

theorem indexCommands_eq {k : String} (h : ∀ c ∈ commands, c.connectorKey = k) :
    ConnectorProxyServiceTaskConnector.indexCommands k commands = .ok (commandsById commands) := by
  unfold ConnectorProxyServiceTaskConnector.indexCommands commandsById
  generalize ([] : List (String × ServiceTaskCommandDefinition)) = byId
  induction commands generalizing byId with
  | nil => rfl
  | cons c commands ih =>
    have hc : c.connectorKey = k := h c (by simp)
    rw [List.foldlM_cons, List.foldl_cons, c.operationId_eq]
    simp only [bind, Except.bind, hc, ne_eq, not_true_eq_false, if_false]
    exact ih (fun c' hc' => h c' (by simp [hc'])) _

theorem lookup_commandsById {id : String} : ((commandsById commands).lookup id).isSome ↔ ∃ c ∈ commands, c.id = id := by
  have hfold : ∀ byId : List (String × ServiceTaskCommandDefinition),
      ((commands.foldl (fun byId c => put c.id c byId) byId).lookup id).isSome ↔
        (byId.lookup id).isSome ∨ ∃ c ∈ commands, c.id = id := by
    induction commands with
    | nil => simp
    | cons c commands ih =>
      intro byId
      rw [List.foldl_cons, ih, lookup_put]
      by_cases hid : id = c.id
      · simp [hid]
      · simp [hid, Ne.symm hid]
  exact (hfold []).trans (by simp)

/-! ## Connectors by key -/

section Groups
variable {groups : List (String × List ServiceTaskCommandDefinition)} {k : String}

/-- A command joins the group of its key. -/
def joinGroup (groups : List (String × List ServiceTaskCommandDefinition)) (c : ServiceTaskCommandDefinition) :
    List (String × List ServiceTaskCommandDefinition) :=
  put c.connectorKey ((groups.lookup c.connectorKey).getD [] ++ [c]) groups

theorem lookup_joinGroups : ((commands.foldl joinGroup groups).lookup k).getD [] =
    (groups.lookup k).getD [] ++ commands.filter (·.connectorKey = k) := by
  induction commands generalizing groups with
  | nil => simp
  | cons c commands ih =>
    rw [List.foldl_cons, ih, joinGroup, lookup_put]
    by_cases hk : k = c.connectorKey
    · simp [hk]
    · simp [hk, Ne.symm hk]

theorem mem_joinGroups : k ∈ (commands.foldl joinGroup groups).map Prod.fst ↔
    k ∈ groups.map Prod.fst ∨ ∃ c ∈ commands, c.connectorKey = k := by
  induction commands generalizing groups with
  | nil => simp
  | cons c commands ih =>
    rw [List.foldl_cons, ih, joinGroup, mem_keys_put]
    simp only [List.mem_cons, exists_eq_or_imp, eq_comm (a := k) (b := c.connectorKey)]
    tauto

theorem nodup_joinGroups (h : (groups.map Prod.fst).Nodup) : ((commands.foldl joinGroup groups).map Prod.fst).Nodup := by
  induction commands generalizing groups with
  | nil => exact h
  | cons c commands ih => exact ih (nodup_keys_put h)

end Groups

/-- The keys of a catalog, in order. -/
def catalogKeys (commands : List ServiceTaskCommandDefinition) : List String :=
  ((commandsByConnectorKey commands).map Prod.fst).insertionSort (· ≤ ·)

theorem mem_catalogKeys {k : String} : k ∈ catalogKeys commands ↔ ∃ c ∈ commands, c.connectorKey = k := by
  rw [catalogKeys, List.mem_insertionSort]
  exact mem_joinGroups.trans (by simp)

variable (commands) in
theorem nodup_catalogKeys : (catalogKeys commands).Nodup :=
  (List.perm_insertionSort _ _).nodup_iff.2 (nodup_joinGroups List.nodup_nil)

theorem idHalf_of_mem_catalogKeys {k : String} (h : k ∈ catalogKeys commands) : IdHalf k := by
  obtain ⟨c, -, rfl⟩ := mem_catalogKeys.1 h
  exact c.key

/-- The connector of a key of the catalog. -/
def connectorOf (commands : List ServiceTaskCommandDefinition) (baseUrl : String) (timeoutSeconds : Rat) (k : String) :
    ConnectorProxyServiceTaskConnector :=
  { connectorKey := k, baseUrl := baseUrl, timeoutSeconds := timeoutSeconds,
    commands := commands.filter (·.connectorKey = k), commandsByOperationId := commandsById (commands.filter (·.connectorKey = k)) }

theorem normalizeConnectorKey_eq {k : String} (hk : IdHalf k) : normalizeConnectorKey k = .ok k := by
  simp [normalizeConnectorKey, hk.trimmed, hk.nonBlank, hk.slashless]

theorem mapM_ok {ε α β : Type} {f : α → Except ε β} {g : α → β} {l : List α} (h : ∀ x ∈ l, f x = .ok (g x)) :
    l.mapM f = .ok (l.map g) := by
  induction l with
  | nil => rfl
  | cons x l ih =>
    rw [List.mapM_cons, h x (by simp), ih fun y hy => h y (by simp [hy])]
    rfl

/-- An accepted catalog makes one connector for each of its keys. -/
theorem connectorsOfCatalog_eq {baseUrl base : String} {timeoutSeconds : Rat} (hbase : normalizeBaseUrl baseUrl = .ok base)
    (htimeout : normalizeTimeoutSeconds timeoutSeconds = .ok timeoutSeconds) :
    connectorsOfCatalog baseUrl timeoutSeconds commands =
      .ok ((catalogKeys commands).map (connectorOf commands base timeoutSeconds)) := by
  refine mapM_ok fun k hk => ?_
  have hgroup : ((commandsByConnectorKey commands).lookup k).getD [] = commands.filter (·.connectorKey = k) :=
    lookup_joinGroups.trans (by simp)
  have hown : ∀ c ∈ commands.filter (·.connectorKey = k), c.connectorKey = k := by simp
  unfold ConnectorProxyServiceTaskConnector.new
  rw [normalizeConnectorKey_eq (idHalf_of_mem_catalogKeys hk), hbase, htimeout, hgroup]
  simp only [bind, Except.bind, indexCommands_eq hown]
  rfl

section Registry
variable {ω : Type} {registry : ServiceTaskRegistry ω} {connectors : List (ServiceTaskConnector ω)}

theorem registerConnector_eq {connector : ServiceTaskConnector ω} (hkey : IdHalf connector.connectorKey)
    (hnew : connector.connectorKey ∉ registry.connectors.map Prod.fst) :
    registry.registerConnector connector false =
      .ok { connectors := registry.connectors ++ [(connector.connectorKey, connector)] } := by
  unfold ServiceTaskRegistry.registerConnector
  rw [normalizeNonBlank_eq _ (by rw [hkey.trimmed]; exact hkey.nonBlank), hkey.trimmed]
  simp only [bind, Except.bind, hkey.slashless, lookup_eq_none_of_not_mem hnew, put, hnew]
  rfl

/-- A registry of connectors with different keys holds each under its own. -/
theorem registry_new_eq (hkeys : ∀ c ∈ connectors, IdHalf c.connectorKey) (hnodup : (connectors.map (·.connectorKey)).Nodup) :
    ServiceTaskRegistry.new connectors = .ok { connectors := connectors.map fun c => (c.connectorKey, c) } := by
  have hfold : ∀ registry : ServiceTaskRegistry ω,
      (registry.connectors.map Prod.fst ++ connectors.map (·.connectorKey)).Nodup →
      connectors.foldlM (fun registry c => registry.registerConnector c false) registry =
        .ok { connectors := registry.connectors ++ connectors.map fun c => (c.connectorKey, c) } := by
    induction connectors with
    | nil => simp [pure, Except.pure]
    | cons c connectors ih =>
      intro registry hdistinct
      rw [List.map_cons] at hdistinct
      have hnew : c.connectorKey ∉ registry.connectors.map Prod.fst := fun hmem =>
        (List.nodup_append.1 hdistinct).2.2 _ hmem _ (by simp) rfl
      rw [List.foldlM_cons, registerConnector_eq (hkeys c (by simp)) hnew]
      refine (ih (fun c' hc' => hkeys c' (by simp [hc'])) (List.nodup_cons.1 hnodup).2 _ ?_).trans (by simp)
      simpa using hdistinct
  simpa [ServiceTaskRegistry.new] using hfold { connectors := [] } (by simpa using hnodup)

theorem getConnector_ok {k : String} {connector : ServiceTaskConnector ω} (hk : strip k ≠ "") :
    registry.getConnector k = .ok connector ↔ registry.connectors.lookup (strip k) = some connector := by
  unfold ServiceTaskRegistry.getConnector
  rw [normalizeNonBlank_eq _ hk]
  simp only [bind, Except.bind]
  cases registry.connectors.lookup (strip k) <;> simp

theorem lookup_map_self {α : Type} {f : String → α} {k : String} {keys : List String} :
    (keys.map fun k => (k, f k)).lookup k = if k ∈ keys then some (f k) else none := by
  induction keys with
  | nil => simp
  | cons k' keys ih =>
    rw [List.map_cons, List.lookup_cons, ih]
    by_cases hk : k = k'
    · simp [hk]
    · have hbeq : (k == k') = false := by simpa using hk
      simp [hbeq, hk]

end Registry

/-! ## The registry of a catalog -/

variable {http : Http} {baseUrl base base' : String} {timeoutSeconds : Rat} {sent sent' : List HttpRequest}
  {catalog : List ServiceTaskCommandDefinition}

/-- The registry an accepted catalog makes. -/
def registryOf (http : Http) (catalog : List ServiceTaskCommandDefinition) (base : String) (timeoutSeconds : Rat) :
    ServiceTaskRegistry (List HttpRequest) :=
  { connectors := (catalogKeys catalog).map fun k => (k, (connectorOf catalog base timeoutSeconds k).toConnector http) }

theorem normalizeTimeoutSeconds_eq {t t' : Rat} (h : normalizeTimeoutSeconds t = .ok t') : t' = t := by
  unfold normalizeTimeoutSeconds at h
  split at h
  · cases h
  · cases h
    rfl

theorem connectorProxyJsonRequest_ok {path method operationId : String} {payload : Option Dict} {r : PyVal × Int}
    (h : (connectorProxyJsonRequest http baseUrl path method payload timeoutSeconds operationId).run sent = (.ok r, sent')) :
    (∃ base, normalizeBaseUrl baseUrl = .ok base) ∧ normalizeTimeoutSeconds timeoutSeconds = .ok timeoutSeconds := by
  unfold connectorProxyJsonRequest at h
  cases hbase : normalizeBaseUrl baseUrl with
  | error e =>
    rw [hbase] at h
    cases h
  | ok base =>
    refine ⟨⟨base, rfl⟩, ?_⟩
    cases htimeout : normalizeTimeoutSeconds timeoutSeconds with
    | error e =>
      rw [hbase, htimeout] at h
      cases h
    | ok t => exact congrArg Except.ok (normalizeTimeoutSeconds_eq htimeout)

/-- A catalog is accepted from a base URL that is normalized twice, within a
time that is positive. -/
theorem fetch_ok (h : (fetchConnectorProxyCommandDefinitions http baseUrl timeoutSeconds).run sent = (.ok catalog, sent')) :
    ∃ base base', normalizeBaseUrl baseUrl = .ok base ∧ normalizeBaseUrl base = .ok base' ∧
      normalizeTimeoutSeconds timeoutSeconds = .ok timeoutSeconds := by
  unfold fetchConnectorProxyCommandDefinitions at h
  cases hbase : normalizeBaseUrl baseUrl with
  | error e =>
    rw [hbase] at h
    cases h
  | ok base =>
    rw [hbase] at h
    simp only [checked, Prog.pure_bind] at h
    generalize hm : connectorProxyJsonRequest http base "/v1/commands" "GET" none timeoutSeconds "connector-proxy catalog" = m at h
    obtain ⟨r, s₁, hrequest, -⟩ := Prog.bind_ok.1 h
    rw [← hm] at hrequest
    obtain ⟨⟨base', hbase'⟩, htimeout⟩ := connectorProxyJsonRequest_ok hrequest
    exact ⟨base, base', rfl, hbase', htimeout⟩

theorem buildRegistry_run (hfetch : (fetchConnectorProxyCommandDefinitions http baseUrl timeoutSeconds).run sent = (.ok catalog, sent'))
    (hbase : normalizeBaseUrl baseUrl = .ok base) (htimeout : normalizeTimeoutSeconds timeoutSeconds = .ok timeoutSeconds) :
    (buildConnectorProxyServiceTaskRegistry http baseUrl timeoutSeconds).run sent =
      (.ok (registryOf http catalog base timeoutSeconds), sent') := by
  have hconnectors : (buildConnectorProxyServiceTaskConnectors http baseUrl timeoutSeconds).run sent =
      (.ok ((catalogKeys catalog).map (connectorOf catalog base timeoutSeconds)), sent') := by
    unfold buildConnectorProxyServiceTaskConnectors
    rw [Prog.bind_run_ok hfetch, connectorsOfCatalog_eq hbase htimeout]
    rfl
  unfold buildConnectorProxyServiceTaskRegistry
  rw [Prog.bind_run_ok hconnectors, registry_new_eq]
  · simp [checked, registryOf, ConnectorProxyServiceTaskConnector.toConnector, connectorOf]
  · intro c hc
    obtain ⟨p, hp, rfl⟩ := List.mem_map.1 hc
    obtain ⟨k, hk, rfl⟩ := List.mem_map.1 hp
    exact idHalf_of_mem_catalogKeys hk
  · simpa [ConnectorProxyServiceTaskConnector.toConnector, connectorOf, Function.comp_def] using
      nodup_catalogKeys catalog

/-! ## Finding a command -/

section Finding
variable {id k n : String} {c : ServiceTaskCommandDefinition}

variable (http base timeoutSeconds) in
theorem getConnector_registryOf (hk : strip k ≠ "") {connector : ServiceTaskConnector (List HttpRequest)} :
    (registryOf http catalog base timeoutSeconds).getConnector k = .ok connector ↔
      strip k ∈ catalogKeys catalog ∧ connector = (connectorOf catalog base timeoutSeconds (strip k)).toConnector http := by
  rw [getConnector_ok hk, registryOf, lookup_map_self]
  split
  · rename_i hmem
    simp [hmem, eq_comm]
  · rename_i hmem
    simp [hmem]

variable (http base timeoutSeconds) in
theorem getCommand_registryOf (hsplit : splitServiceTaskOperationId id = .ok (k, n)) :
    (registryOf http catalog base timeoutSeconds).getCommand id = .ok c ↔
      strip k ∈ catalogKeys catalog ∧
        (catalog.filter (·.connectorKey = strip k)).find? (fun c => c.id = strip k ++ "/" ++ strip n) = some c := by
  obtain ⟨hk, hn⟩ := idHalf_of_split hsplit
  unfold ServiceTaskRegistry.getCommand
  rw [hsplit]
  simp only [bind, Except.bind]
  cases hconnector : (registryOf http catalog base timeoutSeconds).getConnector k with
  | error e =>
    have hnot : strip k ∉ catalogKeys catalog := by
      intro hmem
      have hok := (getConnector_registryOf http base timeoutSeconds hk.nonBlank).2
        ⟨hmem, rfl⟩
      rw [hconnector] at hok
      cases hok
    simp [hnot]
  | ok connector =>
    obtain ⟨hmem, rfl⟩ := (getConnector_registryOf http base timeoutSeconds hk.nonBlank).1 hconnector
    simp only [ConnectorProxyServiceTaskConnector.toConnector, connectorOf, findCommand_eq hk hn, hmem, true_and]
    cases (catalog.filter (·.connectorKey = strip k)).find? (fun c => c.id = strip k ++ "/" ++ strip n) <;> simp

/-- The command an id finds is one of the catalog, with the trimmed halves of the
id for its key and its name. -/
theorem getCommand_ok (hsplit : splitServiceTaskOperationId id = .ok (k, n))
    (h : (registryOf http catalog base timeoutSeconds).getCommand id = .ok c) :
    strip k ∈ catalogKeys catalog ∧ c ∈ catalog ∧ c.connectorKey = strip k ∧ c.commandName = strip n := by
  obtain ⟨hk, hn⟩ := idHalf_of_split hsplit
  obtain ⟨hmem, hfound⟩ := (getCommand_registryOf http base timeoutSeconds hsplit).1 h
  have hid : c.id = strip k ++ "/" ++ strip n := by simpa using List.find?_some hfound
  obtain ⟨hkey, hname⟩ := c.id_inj hk hn hid
  exact ⟨hmem, (List.mem_filter.1 (List.mem_of_find?_eq_some hfound)).1, hkey, hname⟩

variable (http base timeoutSeconds) in
/-- Every command of the catalog is found under its own id. -/
theorem getCommand_own (hc : c ∈ catalog) : ∃ found,
    (registryOf http catalog base timeoutSeconds).getCommand c.id = .ok found ∧
      found.connectorKey = c.connectorKey ∧ found.commandName = c.commandName ∧
      ((∀ other ∈ catalog, other.id = c.id → other = c) → found = c) := by
  have hsplit := c.split_id
  have hmem : strip c.connectorKey ∈ catalogKeys catalog := by
    rw [c.key.trimmed]
    exact mem_catalogKeys.2 ⟨c, hc, rfl⟩
  have hid : c.id = strip c.connectorKey ++ "/" ++ strip c.commandName := by
    rw [c.key.trimmed, c.name.trimmed]
    rfl
  cases hfound : (catalog.filter (·.connectorKey = strip c.connectorKey)).find?
      (fun other => other.id = strip c.connectorKey ++ "/" ++ strip c.commandName) with
  | none =>
    have hnone := List.find?_eq_none.1 hfound c (by simp [hc, c.key.trimmed])
    exact absurd (by simpa using hid) hnone
  | some found =>
    have hget := (getCommand_registryOf http base timeoutSeconds hsplit).2 ⟨hmem, hfound⟩
    obtain ⟨-, hin, hkey, hname⟩ := getCommand_ok hsplit hget
    rw [c.key.trimmed] at hkey
    rw [c.name.trimmed] at hname
    refine ⟨found, hget, hkey, hname, fun honly => honly found hin ?_⟩
    rw [ServiceTaskCommandDefinition.id, hkey, hname]
    rfl

end Finding

/-! ## Running a command -/

section Running
variable {α β : Type} {url k n : String} {request : ServiceTaskRequest}

/-- One request is sent before anything is raised, a POST to `url`. -/
def PostsTo (url : String) (m : Web α) : Prop :=
  ∀ sent, ∃ call : HttpRequest, (m.run sent).2 = sent ++ [call] ∧ call.method = "POST" ∧ call.url = url

/-- Something is raised and nothing sent. -/
def Refuses (m : Web α) : Prop := ∀ sent, ∃ e, m.run sent = (.error e, sent)

theorem Refuses.not_postsTo {m : Web α} (h : Refuses m) : ¬ PostsTo url m := by
  intro hposts
  obtain ⟨e, he⟩ := h []
  obtain ⟨call, hcall, -⟩ := hposts []
  rw [he] at hcall
  simp at hcall

theorem PostsTo.then_pure {m : Web α} (h : PostsTo url m) (f : α → β) : PostsTo url (m >>= fun a => pure (f a)) := by
  intro sent
  obtain ⟨call, hcall, hrest⟩ := h sent
  refine ⟨call, ?_, hrest⟩
  rw [Prog.bind_run, ← hcall]
  rcases m.run sent with ⟨e | a, s⟩ <;> rfl

theorem send_postsTo {call : HttpRequest} {f : HttpAnswer → Web α} (hmethod : call.method = "POST")
    (hquiet : ∀ answer sent, ((f answer).run sent).2 = sent) : PostsTo call.url (http.send call >>= f) := fun sent =>
  ⟨call, hquiet (http.urlopen sent call) (sent ++ [call]), hmethod, rfl⟩

theorem connectorProxyJsonRequest_postsTo {path operationId text : String} {payload : Dict}
    (hbase : normalizeBaseUrl base = .ok base') (htimeout : normalizeTimeoutSeconds timeoutSeconds = .ok timeoutSeconds)
    (htext : http.bodyText payload = some text) :
    PostsTo (http.urljoin (base' ++ "/") (String.ofList (path.toList.dropWhile (· == '/'))))
      (connectorProxyJsonRequest http base path "POST" (some payload) timeoutSeconds operationId) := by
  have hbody : requestBody http (some payload) = .ok (some text) := by simp only [requestBody, htext]
  unfold connectorProxyJsonRequest
  rw [hbase, htimeout, hbody]
  simp only [checked, Prog.pure_bind]
  refine send_postsTo rfl fun answer sent => ?_
  cases answer with
  | response status rawBody =>
    dsimp only
    cases raiseForConnectorProxyErrorPayload http (parseConnectorProxyResponseBody http rawBody) operationId base' <;> rfl
  | httpError code rawBody => rfl
  | urlError reason => rfl
  | raised error => rfl

/-- What cannot be written is refused before anything is sent. -/
theorem connectorProxyJsonRequest_refuses (path operationId : String) {payload : Dict}
    (hbase : normalizeBaseUrl base = .ok base') (htimeout : normalizeTimeoutSeconds timeoutSeconds = .ok timeoutSeconds)
    (htext : http.bodyText payload = none) (sent : List HttpRequest) :
    (connectorProxyJsonRequest http base path "POST" (some payload) timeoutSeconds operationId).run sent =
      (.error (http.dumpsError payload.toVal), sent) := by
  have hbody : requestBody http (some payload) = .error (http.dumpsError payload.toVal) := by simp only [requestBody, htext]
  unfold connectorProxyJsonRequest
  rw [hbase, htimeout, hbody]
  rfl

/-- The callback URL of a request, if it has one, is not blank. -/
def CallbackNamed (request : ServiceTaskRequest) : Prop := ∀ callbackUrl ∈ request.callbackUrl, strip callbackUrl ≠ ""

/-- No parameter of the request has a reserved name. -/
def NothingReserved (request : ServiceTaskRequest) : Prop :=
  ∀ p ∈ request.parameters.getD [], isReservedParameter p.1 = false

/-- What a request posts: its parameters, the task's data and the callback URL. -/
def payloadOf (request : ServiceTaskRequest) : Dict :=
  Dict.update [] (request.parameters.getD []) ++
    (request.taskData.map fun taskData => ("spiff__task_data", taskData.toVal)).toList ++
    (request.callbackUrl.map fun callbackUrl => ("spiff__callback_url", PyVal.str (strip callbackUrl))).toList

/-- Every parameter of the request, and the task's data, are made of what JSON has. -/
def Writable (request : ServiceTaskRequest) : Prop :=
  (∀ kv ∈ Dict.update [] (request.parameters.getD []), Json.encodable false false kv.2 = true) ∧
    ∀ taskData ∈ request.taskData, ∀ kv ∈ taskData, Json.encodable false false kv.2 = true

theorem requestParameters_eq {parameters : Dict} (h : ∀ p ∈ parameters, isReservedParameter p.1 = false) (payload : Dict) :
    requestParameters payload parameters = .ok (payload.update parameters) := by
  induction parameters generalizing payload with
  | nil => rfl
  | cons p parameters ih =>
    have hp : isReservedParameter p.1 = false := h p (by simp)
    simp only [requestParameters, hp]
    exact ih (fun p' hp' => h p' (by simp [hp'])) _

theorem set_of_new {d : Dict} {key : String} {value : PyVal} (h : ∀ kv ∈ d, kv.1 ≠ key) : d.set key value = d ++ [(key, value)] := by
  have hnone : d.any (·.1 == key) = false := List.any_eq_false.2 fun kv hkv => by simpa using h kv hkv
  rw [Dict.set, hnone]
  rfl

/-- The callback URL goes into the payload unless it is blank. -/
theorem addCallbackUrl_ok {callbackUrl : Option String} {data payload : Dict}
    (hnew : ∀ kv ∈ data, kv.1 ≠ "spiff__callback_url") :
    (match callbackUrl with
      | none => .ok data
      | some callbackUrl =>
        if strip callbackUrl = "" then .error (.validation "callback_url must not be blank")
        else .ok (data.set "spiff__callback_url" (.str (strip callbackUrl))) : Except Error Dict) = .ok payload ↔
      (∀ url ∈ callbackUrl, strip url ≠ "") ∧
        payload = data ++ (callbackUrl.map fun url => ("spiff__callback_url", PyVal.str (strip url))).toList := by
  cases callbackUrl with
  | none => simp [eq_comm (a := data)]
  | some callbackUrl =>
    by_cases hblank : strip callbackUrl = ""
    · simp [hblank]
    · simp only [hblank, if_false, set_of_new hnew, Option.map_some, Option.toList_some, Except.ok.injEq]
      exact ⟨fun he => ⟨by simpa using hblank, he.symm⟩, fun he => he.2.symm⟩

/-- Where nothing is reserved, only a blank callback URL is refused. -/
theorem connectorProxyRequestPayload_ok (h : NothingReserved request) {payload : Dict} :
    connectorProxyRequestPayload request = .ok payload ↔ CallbackNamed request ∧ payload = payloadOf request := by
  have hnew : ∀ key, isReservedParameter key = true → ∀ kv ∈ Dict.update [] (request.parameters.getD []), kv.1 ≠ key := by
    rintro key hkey kv hkv rfl
    rcases Dict.mem_update hkv with hnil | hmem
    · cases hnil
    · rw [h kv hmem] at hkey
      cases hkey
  unfold connectorProxyRequestPayload CallbackNamed payloadOf
  rw [requestParameters_eq h]
  simp only [bind, Except.bind]
  cases request.taskData with
  | none =>
    simp only [Option.map_none, Option.toList_none, List.append_nil]
    exact addCallbackUrl_ok (hnew _ (by decide))
  | some taskData =>
    simp only [set_of_new (hnew "spiff__task_data" (by decide)), Option.map_some, Option.toList_some]
    refine addCallbackUrl_ok fun kv hkv => ?_
    rcases List.mem_append.1 hkv with hkv | hkv
    · exact hnew _ (by decide) kv hkv
    · rw [List.mem_singleton.1 hkv]
      simp

/-- The payload of a request has a text exactly when what it is made of can be written. -/
theorem bodyText_payloadOf : (http.bodyText (payloadOf request)).isSome = true ↔ Writable request := by
  rw [Http.bodyText, Json.dumps_isSome, Option.isSome_none, Json.encodable_toVal]
  unfold payloadOf Writable
  constructor
  · intro h
    refine ⟨fun kv hkv => h kv (by simp [hkv]), fun taskData htaskData => (Json.encodable_toVal false false taskData).1 ?_⟩
    exact h ("spiff__task_data", taskData.toVal) (by simp [Option.mem_def.1 htaskData])
  · rintro ⟨hparameters, htaskData⟩ kv hkv
    rcases List.mem_append.1 hkv with hkv | hkv
    · rcases List.mem_append.1 hkv with hkv | hkv
      · exact hparameters kv hkv
      · obtain ⟨taskData, hmem, rfl⟩ := by simpa using hkv
        exact (Json.encodable_toVal false false taskData).2 (htaskData taskData hmem)
    · obtain ⟨callbackUrl, -, rfl⟩ := by simpa using hkv
      rfl

theorem request_connectorKey (hsplit : splitServiceTaskOperationId request.operationId = .ok (k, n)) :
    request.connectorKey = .ok k := by
  simp only [ServiceTaskRequest.connectorKey, hsplit, bind, Except.bind]

theorem request_commandName (hsplit : splitServiceTaskOperationId request.operationId = .ok (k, n)) :
    request.commandName = .ok n := by
  simp only [ServiceTaskRequest.commandName, hsplit, bind, Except.bind]

section Connector
variable {connector : ConnectorProxyServiceTaskConnector}

/-- A connector refuses an id with something to trim. -/
theorem execute_refuses (hsplit : splitServiceTaskOperationId request.operationId = .ok (k, n))
    (hkey : connector.connectorKey = strip k) (hids : ∀ id, (connector.commandsByOperationId.lookup id).isSome →
      ∃ c : ServiceTaskCommandDefinition, c.id = id) (hspace : ¬ Spaceless request.operationId) :
    Refuses (connector.execute http request) := by
  intro sent
  unfold ConnectorProxyServiceTaskConnector.execute
  rw [request_connectorKey hsplit]
  simp only [checked, Prog.pure_bind]
  by_cases hk : k = connector.connectorKey
  · have hnone : (connector.commandsByOperationId.lookup request.operationId).isNone := by
      rw [Option.isNone_iff_eq_none, ← Option.not_isSome_iff_eq_none]
      intro hsome
      obtain ⟨c, hc⟩ := hids _ hsome
      -- an id that the connector knows is a command's own, and those are trimmed
      refine hspace ((spaceless_iff hsplit).2 ?_)
      have hown := c.split_id
      rw [hc, hsplit] at hown
      obtain ⟨rfl, rfl⟩ := Prod.mk.inj (Except.ok.inj hown)
      rw [c.key.trimmed, c.name.trimmed]
      exact hc.symm
    simp only [hk, ne_eq, not_true_eq_false, if_false, hnone, if_true]
    exact ⟨_, rfl⟩
  · simp only [hk, ne_eq, not_false_eq_true, if_true]
    exact ⟨_, rfl⟩

/-- A payload that is refused, or that has no text, is not sent. -/
theorem execute_refuses_payload (hsplit : splitServiceTaskOperationId request.operationId = .ok (k, n)) (hk : IdHalf k)
    (hn : IdHalf n) (hkey : connector.connectorKey = k)
    (hid : (connector.commandsByOperationId.lookup request.operationId).isSome)
    (hbase : normalizeBaseUrl connector.baseUrl = .ok base')
    (htimeout : normalizeTimeoutSeconds connector.timeoutSeconds = .ok connector.timeoutSeconds)
    (hrefused : ∀ payload, connectorProxyRequestPayload request = .ok payload → http.bodyText payload = none) :
    Refuses (connector.execute http request) := by
  intro sent
  have hnone : (connector.commandsByOperationId.lookup request.operationId).isNone = false := by
    rw [← Option.not_isSome, hid]
    rfl
  unfold ConnectorProxyServiceTaskConnector.execute
  rw [request_connectorKey hsplit, request_commandName hsplit]
  simp only [checked, Prog.pure_bind, hkey, ne_eq, not_true_eq_false, if_false, hnone, Bool.false_eq_true]
  cases hpayload : connectorProxyRequestPayload request with
  | error e => exact ⟨e, rfl⟩
  | ok payload =>
    have hrequest := connectorProxyJsonRequest_refuses ("/v1/do/" ++ k ++ "/" ++ n) request.operationId hbase htimeout
      (hrefused payload hpayload) sent
    simp only [Prog.pure_bind, hk.path hn]
    generalize connectorProxyJsonRequest http connector.baseUrl ("/v1/do/" ++ k ++ "/" ++ n) "POST" (some payload)
      connector.timeoutSeconds request.operationId = m at hrequest ⊢
    rw [Prog.bind_run_error hrequest]
    exact ⟨_, rfl⟩

variable (http) in
/-- A connector posts what it knows by its id to the path of the command. -/
theorem execute_posts (hsplit : splitServiceTaskOperationId request.operationId = .ok (k, n)) (hk : IdHalf k) (hn : IdHalf n)
    (hkey : connector.connectorKey = k) (hid : (connector.commandsByOperationId.lookup request.operationId).isSome)
    (hreserved : NothingReserved request) (hcallback : CallbackNamed request) (hwritable : Writable request)
    (hbase : normalizeBaseUrl connector.baseUrl = .ok base')
    (htimeout : normalizeTimeoutSeconds connector.timeoutSeconds = .ok connector.timeoutSeconds) :
    PostsTo (http.urljoin (base' ++ "/") ("v1/do/" ++ k ++ "/" ++ n)) (connector.execute http request) := by
  have hpayload := (connectorProxyRequestPayload_ok hreserved).2 ⟨hcallback, rfl⟩
  have hbody : (http.bodyText (payloadOf request)).isSome = true := bodyText_payloadOf.2 hwritable
  obtain ⟨text, htext⟩ := Option.isSome_iff_exists.1 hbody
  have hnone : (connector.commandsByOperationId.lookup request.operationId).isNone = false := by
    rw [← Option.not_isSome, hid]
    rfl
  have hpath : String.ofList (("/v1/do/" ++ k ++ "/" ++ n).toList.dropWhile (· == '/')) = "v1/do/" ++ k ++ "/" ++ n := by
    rw [← String.toList_inj, String.toList_ofList]
    simp
  unfold ConnectorProxyServiceTaskConnector.execute
  rw [request_connectorKey hsplit, request_commandName hsplit, hpayload]
  simp only [checked, Prog.pure_bind, hkey, ne_eq, not_true_eq_false, if_false, hnone, hk.path hn]
  rw [← hpath]
  exact (connectorProxyJsonRequest_postsTo hbase htimeout htext).then_pure _

end Connector
end Running

theorem execute_eq {request : ServiceTaskRequest} {k n : String} {c : ServiceTaskCommandDefinition}
    (hsplit : splitServiceTaskOperationId request.operationId = .ok (k, n))
    (hget : (registryOf http catalog base timeoutSeconds).getCommand request.operationId = .ok c) :
    (registryOf http catalog base timeoutSeconds).execute request =
      (connectorOf catalog base timeoutSeconds (strip k)).execute http request := by
  have hmem := (getCommand_ok hsplit hget).1
  have hconnector := (getConnector_registryOf http base timeoutSeconds
    (idHalf_of_split hsplit).1.nonBlank).2 ⟨hmem, rfl⟩
  unfold ServiceTaskRegistry.execute
  rw [hget, request_connectorKey hsplit]
  simp only [checked, Prog.pure_bind, hconnector]
  rfl

theorem request_split (request : ServiceTaskRequest) : ∃ k n, splitServiceTaskOperationId request.operationId = .ok (k, n) := by
  have hsplits := request.splits
  cases hparts : splitServiceTaskOperationId request.operationId with
  | error e => simp [hparts, Except.isOk, Except.toBool] at hsplits
  | ok parts => exact ⟨parts.1, parts.2, rfl⟩

/-- Where the command is found, the connector posts to its path exactly for an id
with nothing to trim, a callback URL that is not blank and data that can be written. -/
theorem execute_postsTo_iff {request : ServiceTaskRequest} {c : ServiceTaskCommandDefinition}
    (hbase : normalizeBaseUrl base = .ok base') (htimeout : normalizeTimeoutSeconds timeoutSeconds = .ok timeoutSeconds)
    (hget : (registryOf http catalog base timeoutSeconds).getCommand request.operationId = .ok c)
    (hreserved : NothingReserved request) :
    PostsTo (http.urljoin (base' ++ "/") ("v1/do/" ++ c.connectorKey ++ "/" ++ c.commandName))
        ((registryOf http catalog base timeoutSeconds).execute request) ↔
      Spaceless request.operationId ∧ CallbackNamed request ∧ Writable request := by
  obtain ⟨k, n, hsplit⟩ := request_split request
  obtain ⟨hmem, hc, hkey, hname⟩ := getCommand_ok hsplit hget
  rw [execute_eq hsplit hget]
  by_cases hspace : Spaceless request.operationId
  · -- the halves are trimmed, so the id is the command's own
    have hid := (spaceless_iff hsplit).1 hspace
    obtain ⟨hk, hn⟩ := idHalf_of_split hsplit
    have hparts := hk.split hn
    rw [← hid, hsplit] at hparts
    obtain ⟨hkeq, hneq⟩ := Prod.mk.inj (Except.ok.inj hparts)
    have hknown : ((connectorOf catalog base timeoutSeconds (strip k)).commandsByOperationId.lookup request.operationId).isSome := by
      refine lookup_commandsById.2 ⟨c, by simp [hc, hkey], ?_⟩
      rw [ServiceTaskCommandDefinition.id, hkey, hname]
      exact hid.symm
    have hk' : IdHalf k := by
      rw [hkeq]
      exact hk
    have hn' : IdHalf n := by
      rw [hneq]
      exact hn
    by_cases hsent : CallbackNamed request ∧ Writable request
    · have hposts := execute_posts http hsplit hk' hn' hkeq.symm hknown hreserved hsent.1 hsent.2 hbase htimeout
      rw [hkey, hname, ← hkeq, ← hneq] at *
      exact iff_of_true hposts ⟨hspace, hsent⟩
    · refine iff_of_false (execute_refuses_payload hsplit hk' hn' hkeq.symm hknown hbase htimeout ?_).not_postsTo
        fun h => hsent h.2
      intro payload hpayload
      obtain ⟨hcallback, rfl⟩ := (connectorProxyRequestPayload_ok hreserved).1 hpayload
      rw [← Option.not_isSome_iff_eq_none, bodyText_payloadOf]
      exact fun hwritable => hsent ⟨hcallback, hwritable⟩
  · refine iff_of_false (execute_refuses hsplit rfl (fun id hsome => ?_) hspace).not_postsTo fun h => hspace h.1
    obtain ⟨c', -, hc'⟩ := lookup_commandsById.1 hsome
    exact ⟨c', hc'⟩

namespace Sample

/-- A proxy whose catalog is the command `get` of the connector `http`. -/
def proxy : Http :=
  { urljoin := fun base path => base ++ path, loads := fun _ => some (.list [.dict [(.str "id", .str "http/get")]]),
    dumps := fun _ => "", dumpsError := fun _ => .other "TypeError" "not JSON serializable", str := fun _ => "", urlopen := fun _ _ => .response 200 "[]" }

def getCommand : ServiceTaskCommandDefinition :=
  { connectorKey := "http", commandName := "get", displayName := some "get", description := none, parameters := [],
    metadata := some (Dict.toVal [("catalog_entry", .dict [(.str "id", .str "http/get")])]),
    key := ⟨by decide +kernel, by decide, by decide +kernel⟩, name := ⟨by decide +kernel, by decide, by decide +kernel⟩ }

def catalogRequest : HttpRequest :=
  { url := "http://proxy/v1/commands", data := none, headers := [("Accept", "application/json")], method := "GET", timeout := 10 }

/-- A request for `get`, with the id as a model may have it. -/
def requestFor (operationId : String) (splits : (splitServiceTaskOperationId operationId).isOk) : ServiceTaskRequest :=
  { operationId := operationId, parameters := some [("url", .str "u")], taskData := none, callbackUrl := none, splits := splits }

theorem proxy_fetch : (fetchConnectorProxyCommandDefinitions proxy "http://proxy" 10).run [] = (.ok [getCommand], [catalogRequest]) := by
  decide +kernel

end Sample

end M8flowCore
