import Mathlib.Data.List.Nodup
import Mathlib.Data.List.Pairwise
import NetPort.DeviceManager
import NetPort.StepRuns
import NetPort.UserRequests

/-! The ports of the static servers: `create` and `update` of the service, interleaved where they
await the database. The class has no `patch`. -/
namespace ServerPorts

open SqlUpdate StepRuns
open DeviceManager (Json)
open UserRequests (Data trim)

/-- The columns of `servers`. -/
inductive Column where
  | id
  | userId
  | inputPort
  | outputPort
  | enable
  | enableSsl
  | enableInputSsl
  | description
  | totalBytesReceived
  | totalBytesSent
  deriving DecidableEq, Repr

def Column.key : Column → String
  | .id => "id"
  | .userId => "user_id"
  | .inputPort => "input_port"
  | .outputPort => "output_port"
  | .enable => "enable"
  | .enableSsl => "enable_ssl"
  | .enableInputSsl => "enable_input_ssl"
  | .description => "description"
  | .totalBytesReceived => "total_bytes_received"
  | .totalBytesSent => "total_bytes_sent"

/-- What JavaScript, the query builder and PostgreSQL make of values and keys. -/
structure Platform where
  /-- `Number(value)` where that is an integer -/
  number : Json → Option ℤ
  /-- The value as a parameter of an integer column, unless the statement fails -/
  integer : Json → Option ℤ
  /-- The same for `enable` -/
  boolean : Json → Option Bool
  /-- A column that is not modelled takes the value -/
  takes : Column → Json → Bool
  /-- The identifier that the query builder writes for a key -/
  column : String → Option Column
  column_key : ∀ c : Column, column c.key = some c
  number_null : number .null = some 0
  number_integer : ∀ n, number (.integer n) = some n
  integer_integer : ∀ n, integer (.integer n) = some n
  agree : ∀ v n m, number v = some n → integer v = some m → m = n

/-- A row of `servers`. -/
structure Server where
  id : ℤ
  inputPort : Option ℤ
  outputPort : Option ℤ
  enable : Option Bool
  deriving DecidableEq

def property (key : String) (data : Data) : Option Json := (Json.object data).get key

def portInDeviceRange (port : ℤ) : Bool := 6000 ≤ port && port ≤ 7000

def portInServerRange (port : ℤ) : Bool := 5000 ≤ port && port ≤ 5999

/-- `none` is `undefined`, whose number is no integer. -/
def validateServerPorts (pf : Platform) (inputPort outputPort : Option Json) :
    Except String Unit :=
  match inputPort.bind pf.number, outputPort.bind pf.number with
  | some input, some output =>
    if portInDeviceRange input || portInDeviceRange output then
      .error "Ports 6000-7000 are reserved for devices"
    else if !portInServerRange input || !portInServerRange output then
      .error "Server ports must be in range 5000-5999"
    else if input = output then .error "Input and output ports must differ"
    else .ok ()
  | _, _ => .error "Ports must be integers"

def assignPortConflict (inputPort outputPort : ℤ) (s : Server) : Bool :=
  s.inputPort == some inputPort || s.outputPort == some inputPort ||
    s.inputPort == some outputPort || s.outputPort == some outputPort

def assertPortsAvailable (inputPort outputPort : ℤ) (excludeServerId : Option ℤ)
    (servers : List Server) : Except String Unit :=
  match servers.find? fun s =>
      assignPortConflict inputPort outputPort s && excludeServerId != some s.id with
  | some conflict => .error ("Port conflict with server #" ++ toString conflict.id)
  | none => .ok ()

def isNull : Json → Bool
  | .null => true
  | _ => false

def ofColumn : Option ℤ → Json
  | none => .null
  | some n => .integer n

/-- `data.port != null ? data.port : existing.port` -/
def orExisting (value : Option Json) (existing : Option ℤ) : Json :=
  match value with
  | none => ofColumn existing
  | some v => if isNull v then ofColumn existing else v

/-- `null` writes NULL. -/
def nullable {α : Type} (cast : Json → Option α) (value : Json) : Option (Option α) :=
  if isNull value then some none else (cast value).map some

def assign (pf : Platform) (s : Server) (c : Column) (value : Json) : Option Server :=
  match c with
  | .id => if isNull value then none else (pf.integer value).map fun id => { s with id := id }
  | .inputPort => (nullable pf.integer value).map fun port => { s with inputPort := port }
  | .outputPort => (nullable pf.integer value).map fun port => { s with outputPort := port }
  | .enable => (nullable pf.boolean value).map fun enable => { s with enable := enable }
  | c => if pf.takes c value then some s else none

def assignments (pf : Platform) (data : Data) : List (Column × Json) :=
  data.filterMap fun entry => (pf.column entry.1).map fun c => (c, entry.2)

def Server.inRange (s : Server) : Bool :=
  s.inputPort.all portInServerRange && s.outputPort.all portInServerRange

/-- What a statement writes; it fails for an unknown column and for one that is assigned twice. -/
def writeRow (pf : Platform) (data : Data) (old : Server) : Option Server := do
  let assigned := assignments pf data
  if data.all (fun entry => (pf.column entry.1).isSome) ∧ (assigned.map (·.1)).Nodup then
    let row ← assigned.foldlM (fun row a => assign pf row a.1 a.2) old
    if row.inRange then some row else none
  else none

/-- A request past its validation: the server that it updates and the ports that it asks for. -/
structure Pending where
  serverId : Option ℤ
  data : Data
  inputPort : Json
  outputPort : Json

inductive Request where
  | finding (serverId : ℤ) (data : Data)
  | checking (p : Pending)
  | writing (p : Pending)
  | answered

structure State where
  servers : List Server
  requests : List Request

inductive Action where
  | create (data : Data)
  | update (serverId : Option ℤ) (data : Data)
  | patch (serverId : Option ℤ) (data : Data)
  /-- The awaited statement is executed; the sequence gives `nextId`. -/
  | proceed (i : ℕ) (nextId : ℤ)
  | fail (i : ℕ)

/-- `none` is a violated key or CHECK. -/
def insert (pf : Platform) (data : Data) (nextId : ℤ) (servers : List Server) :
    Option (List Server) := do
  let row ← writeRow pf data ⟨nextId, none, none, none⟩
  if servers.any (·.id == row.id) then none else some (servers ++ [row])

def update (pf : Platform) (serverId : ℤ) (data : Data) (servers : List Server) :
    Option (List Server) :=
  match servers.find? (·.id == serverId) with
  | none => some servers
  | some old => do
    let row ← writeRow pf data old
    if servers.any fun s => s.id == row.id && s.id != serverId then none
    else some (updateRows (·.id == serverId) (fun _ => row) servers)

def write (pf : Platform) (p : Pending) (nextId : ℤ) (servers : List Server) :
    Option (List Server) :=
  match p.serverId with
  | none => insert pf p.data nextId servers
  | some serverId => update pf serverId p.data servers

def State.accept (r : Request) (s : State) : State := { s with requests := s.requests ++ [r] }

def State.put (i : ℕ) (r : Request) (s : State) : State :=
  { s with requests := s.requests.set i r }

def validated (pf : Platform) (serverId : Option ℤ) (data : Data)
    (inputPort outputPort : Option Json) : Request :=
  match validateServerPorts pf inputPort outputPort, inputPort, outputPort with
  | .ok _, some inputPort, some outputPort => .checking ⟨serverId, data, inputPort, outputPort⟩
  | _, _, _ => .answered

def proceed (pf : Platform) (i : ℕ) (nextId : ℤ) (s : State) : Request → Option State
  | .finding serverId data =>
    match s.servers.find? (·.id == serverId) with
    | none => some (s.put i .answered)
    | some existing => some (s.put i (validated pf (some serverId) data
        (some (orExisting (property "input_port" data) existing.inputPort))
        (some (orExisting (property "output_port" data) existing.outputPort))))
  | .checking p => do
    let inputPort ← pf.integer p.inputPort
    let outputPort ← pf.integer p.outputPort
    match assertPortsAvailable inputPort outputPort p.serverId s.servers with
    | .ok _ => some (s.put i (.writing p))
    | .error _ => some (s.put i .answered)
  | .writing p => do
    let servers ← write pf p nextId s.servers
    some { s.put i .answered with servers := servers }
  | .answered => none

def step (pf : Platform) (s : State) : Action → Option State
  | .create data => some (s.accept (validated pf none data (property "input_port" data)
      (property "output_port" data)))
  | .update (some serverId) data => some (s.accept (.finding serverId data))
  -- a statement with NaN fails
  | .update none _ => some (s.accept .answered)
  | .patch _ _ => some (s.accept .answered)
  | .proceed i nextId => s.requests[i]?.bind (proceed pf i nextId s)
  | .fail i => if i < s.requests.length then some (s.put i .answered) else none

def Server.placeholder (s : Server) : Bool :=
  s.enable == some false && s.inputPort == some 5998 && s.outputPort == some 5999

def Server.ports (s : Server) : List ℤ := s.inputPort.toList ++ s.outputPort.toList

def UniquePorts (servers : List Server) : Prop :=
  ((servers.filter (!·.placeholder)).flatMap Server.ports).Nodup

instance (servers : List Server) : Decidable (UniquePorts servers) :=
  inferInstanceAs (Decidable (List.Nodup _))

structure Initial (s : State) : Prop where
  keyed : (s.servers.map (·.id)).Nodup
  inRange : ∀ r ∈ s.servers, r.inRange = true
  idle : s.requests = []
  unique : UniquePorts s.servers

def service (pf : Platform) : System State Action where
  initial := Initial
  enabled s a := (step pf s a).isSome
  next s a := (step pf s a).getD s

instance (pf : Platform) (s : State) (a : Action) : Decidable ((service pf).enabled s a) :=
  inferInstanceAs (Decidable ((step pf s a).isSome = true))

def checkedPorts (pf : Platform) (p : Pending) : List ℤ :=
  (pf.integer p.inputPort).toList ++ (pf.integer p.outputPort).toList

/-- The port of the row that an update does not write is the one that was checked. -/
def Undisturbed (pf : Platform) (p : Pending) (s : State) : Prop :=
  ∀ r ∈ s.servers, p.serverId = some r.id →
    ((∀ a ∈ assignments pf p.data, a.1 ≠ .inputPort) → r.inputPort = pf.integer p.inputPort) ∧
    ((∀ a ∈ assignments pf p.data, a.1 ≠ .outputPort) → r.outputPort = pf.integer p.outputPort)

/-- A key that is not the name of a port's column denotes it only with the port that was checked, or
with `null`. -/
def Plain (pf : Platform) (p : Pending) : Prop :=
  ∀ entry ∈ p.data, isNull entry.2 = false →
    (pf.column entry.1 = some .inputPort → entry.1 = "input_port" ∨
      pf.integer entry.2 = pf.integer p.inputPort) ∧
    (pf.column entry.1 = some .outputPort → entry.1 = "output_port" ∨
      pf.integer entry.2 = pf.integer p.outputPort)

instance (pf : Platform) (p : Pending) : Decidable (Plain pf p) :=
  inferInstanceAs (Decidable (∀ _ ∈ _, _))

def KeepsId (pf : Platform) (p : Pending) : Prop :=
  ∀ a ∈ assignments pf p.data, a.1 = .id → pf.integer a.2 = p.serverId

/-- Both update one server, which keeps its id, or they have checked different ports. -/
def Apart (pf : Platform) (p q : Pending) : Prop :=
  (p.serverId.isSome ∧ q.serverId = p.serverId ∧ KeepsId pf p) ∨
    List.Disjoint (checkedPorts pf p) (checkedPorts pf q)

/-- When a request writes, it writes the ports that were checked, nobody has changed a port that it
relies on, and no other request has checked one of its ports without having written yet. -/
def Careful (pf : Platform) (s : State) : Action → Prop
  | .proceed i _ => ∀ p, s.requests[i]? = some (.writing p) → Plain pf p ∧ Undisturbed pf p s ∧
      ∀ j q, j ≠ i → s.requests[j]? = some (.writing q) → Apart pf p q
  | _ => True

/-- What the validation says of a request. -/
structure Valid (pf : Platform) (p : Pending) : Prop where
  differ : ∃ n m, pf.number p.inputPort = some n ∧ pf.number p.outputPort = some m ∧ n ≠ m
  input : ∀ v, property "input_port" p.data = some v → isNull v = false → p.inputPort = v
  output : ∀ v, property "output_port" p.data = some v → isNull v = false → p.outputPort = v

structure Invariant (pf : Platform) (s : State) : Prop where
  keyed : (s.servers.map (·.id)).Nodup
  valid : ∀ (i : ℕ) (p : Pending),
    s.requests[i]? = some (.checking p) ∨ s.requests[i]? = some (.writing p) → Valid pf p
  clear : ∀ (i : ℕ) (p : Pending), s.requests[i]? = some (.writing p) →
    ∀ r ∈ s.servers, p.serverId ≠ some r.id → List.Disjoint r.ports (checkedPorts pf p)
  unique : UniquePorts s.servers

variable {pf : Platform} {s t : State} {a : Action} {p q : Pending} {servers servers' : List Server}
  {row r : Server} {i j : ℕ} {data : Data}

theorem unique_iff (keyed : (servers.map (·.id)).Nodup) : UniquePorts servers ↔
    (∀ r ∈ servers, r.placeholder = false → r.ports.Nodup) ∧
      ∀ r ∈ servers, ∀ r' ∈ servers, r.id ≠ r'.id → r.placeholder = false →
        r'.placeholder = false → List.Disjoint r.ports r'.ports := by
  unfold UniquePorts
  rw [List.nodup_flatMap]
  have distinct : (servers.filter (!·.placeholder)).Pairwise fun r r' => r.id ≠ r'.id :=
    (List.pairwise_map.1 keyed).filter _
  have mem (r : Server) : r ∈ servers.filter (!·.placeholder) ↔
      r ∈ servers ∧ r.placeholder = false := by simp
  constructor
  · rintro ⟨own, pairs⟩
    refine ⟨fun r there plain => own r ((mem r).2 ⟨there, plain⟩), ?_⟩
    intro r there r' there' apart plain plain'
    have symm : Std.Symm (Function.onFun List.Disjoint Server.ports) :=
      ⟨fun _ _ h _ mem mem' => h mem' mem⟩
    exact pairs.forall ((mem r).2 ⟨there, plain⟩) ((mem r').2 ⟨there', plain'⟩)
      fun same => apart (congrArg Server.id same)
  · rintro ⟨own, pairs⟩
    refine ⟨fun r there => own r ((mem r).1 there).1 ((mem r).1 there).2, ?_⟩
    refine distinct.imp_of_mem fun there there' apart => ?_
    obtain ⟨there, plain⟩ := (mem _).1 there
    obtain ⟨there', plain'⟩ := (mem _).1 there'
    exact pairs _ there _ there' apart plain plain'

def Within (pf : Platform) (p : Pending) (row : Server) : Prop :=
  (row.inputPort = none ∨ row.inputPort = pf.integer p.inputPort) ∧
    (row.outputPort = none ∨ row.outputPort = pf.integer p.outputPort)

theorem Within.subset (h : Within pf p row) : ∀ n ∈ row.ports, n ∈ checkedPorts pf p := by
  intro n mem
  simp only [Server.ports, checkedPorts, List.mem_append, Option.mem_toList] at mem ⊢
  obtain ⟨input, output⟩ := h
  rcases mem with mem | mem
  · rcases input with none | same
    · rw [none] at mem
      cases mem
    · exact .inl (same ▸ mem)
  · rcases output with none | same
    · rw [none] at mem
      cases mem
    · exact .inr (same ▸ mem)

theorem Within.nodup (h : Within pf p row) (valid : Valid pf p) : row.ports.Nodup := by
  obtain ⟨n, m, first, second, apart⟩ := valid.differ
  unfold Server.ports
  cases input : row.inputPort with
  | none => cases row.outputPort <;> simp
  | some x =>
    cases output : row.outputPort with
    | none => simp
    | some y =>
      have here : pf.integer p.inputPort = some x := by
        rcases h.1 with none | same
        · rw [input] at none
          cases none
        · rw [← same, input]
      have there : pf.integer p.outputPort = some y := by
        rcases h.2 with none | same
        · rw [output] at none
          cases none
        · rw [← same, output]
      have left := pf.agree _ _ _ first here
      have right := pf.agree _ _ _ second there
      simp [left, right, apart]

/-- What a statement leaves: one row is new, and the others had other ids. -/
structure Replaces (pf : Platform) (p : Pending) (row : Server) (servers servers' : List Server) : Prop where
  keyed : (servers'.map (·.id)).Nodup
  mem : ∀ r ∈ servers', r = row ∨ (r ∈ servers ∧ p.serverId ≠ some r.id)
  id : p.serverId.isSome → KeepsId pf p → p.serverId = some row.id

def Server.number (s : Server) : Column → Option ℤ
  | .id => some s.id
  | .inputPort => s.inputPort
  | .outputPort => s.outputPort
  | _ => none

def Column.numbers : Column → Bool
  | .id | .inputPort | .outputPort => true
  | _ => false

section Assigned

variable {c d : Column} {value : Json} {old : Server} {assigned : List (Column × Json)}

theorem number_nullable {cast : Json → Option ℤ} {x : Option ℤ}
    (h : nullable cast value = some x) : x = if isNull value then none else cast value := by
  unfold nullable at h
  split at h
  · rename_i null
    rw [if_pos null]
    exact (Option.some.inj h).symm
  · rename_i plain
    obtain ⟨n, given, rfl⟩ := Option.map_eq_some_iff.1 h
    rw [if_neg plain, given]

theorem number_assign (numbers : d.numbers = true) (h : assign pf old c value = some row) :
    row.number d =
      if c = d then (if isNull value then none else pf.integer value) else old.number d := by
  cases c with
  | id =>
    simp only [assign] at h
    split at h
    · cases h
    · rename_i plain
      obtain ⟨n, given, rfl⟩ := Option.map_eq_some_iff.1 h
      rw [if_neg plain]
      cases d <;> first | exact given.symm | rfl
  | inputPort =>
    obtain ⟨x, given, rfl⟩ := Option.map_eq_some_iff.1 h
    cases d <;> first | exact number_nullable given | rfl
  | outputPort =>
    obtain ⟨x, given, rfl⟩ := Option.map_eq_some_iff.1 h
    cases d <;> first | exact number_nullable given | rfl
  | enable =>
    obtain ⟨x, -, rfl⟩ := Option.map_eq_some_iff.1 h
    cases d <;> first | rfl | cases numbers
  | userId | enableSsl | enableInputSsl | description | totalBytesReceived | totalBytesSent =>
    simp only [assign] at h
    split at h
    · cases h
      cases d <;> first | rfl | cases numbers
    · cases h

theorem number_foldlM (numbers : d.numbers = true)
    (h : assigned.foldlM (fun row a => assign pf row a.1 a.2) old = some row) :
    (row.number d = old.number d ∧ ∀ a ∈ assigned, a.1 ≠ d) ∨ ∃ a ∈ assigned, a.1 = d ∧
      row.number d = if isNull a.2 then none else pf.integer a.2 := by
  induction assigned generalizing old with
  | nil =>
    cases h
    exact .inl ⟨rfl, by simp⟩
  | cons a assigned ih =>
    rw [List.foldlM_cons] at h
    obtain ⟨next, first, rest⟩ := Option.bind_eq_some_iff.1 h
    have here := number_assign numbers first
    rcases ih rest with ⟨same, others⟩ | ⟨b, mem, own, given⟩
    · rw [here] at same
      by_cases own : a.1 = d
      · rw [if_pos own] at same
        exact .inr ⟨a, List.mem_cons_self, own, same⟩
      · rw [if_neg own] at same
        refine .inl ⟨same, fun b mem => ?_⟩
        rcases List.mem_cons.1 mem with rfl | mem
        · exact own
        · exact others b mem
    · exact .inr ⟨b, List.mem_cons_of_mem _ mem, own, given⟩

theorem mem_assignments {a : Column × Json} : a ∈ assignments pf data ↔
    ∃ entry ∈ data, pf.column entry.1 = some a.1 ∧ entry.2 = a.2 := by
  simp only [assignments, List.mem_filterMap, Option.map_eq_some_iff]
  constructor
  · rintro ⟨entry, mem, c, column, rfl⟩
    exact ⟨entry, mem, column, rfl⟩
  · rintro ⟨entry, mem, column, value⟩
    exact ⟨entry, mem, a.1, column, by rw [value]⟩

/-- The value of a key is the one that is assigned under its name. -/
theorem property_key {entry : String × Json} (nodup : ((assignments pf data).map (·.1)).Nodup)
    (mem : entry ∈ data) (name : entry.1 = c.key) : property c.key data = some entry.2 := by
  have column (e : String × Json) (name : e.1 = c.key) (mem : e ∈ data) :
      (c, e.2) ∈ assignments pf data :=
    mem_assignments.2 ⟨e, mem, by rw [name, pf.column_key], rfl⟩
  have found : (data.find? fun e => e.1 == c.key).isSome :=
    List.find?_isSome.2 ⟨entry, mem, beq_iff_eq.2 name⟩
  obtain ⟨first, found⟩ := Option.isSome_iff_exists.1 found
  have named : first.1 = c.key := by simpa using List.find?_some found
  have same := List.inj_on_of_nodup_map nodup (column first named (List.mem_of_find?_eq_some found))
    (column entry name mem) rfl
  rw [property, Json.get, found, Option.map_some, (Prod.mk.inj same).2]

theorem number_within {port : Json} (numbers : d.numbers = true)
    (h : (assignments pf data).foldlM (fun row a => assign pf row a.1 a.2) old = some row)
    (checked : ∀ entry ∈ data, isNull entry.2 = false → pf.column entry.1 = some d →
      pf.integer entry.2 = pf.integer port)
    (kept : (∀ a ∈ assignments pf data, a.1 ≠ d) →
      old.number d = none ∨ old.number d = pf.integer port) :
    row.number d = none ∨ row.number d = pf.integer port := by
  rcases number_foldlM numbers h with ⟨same, others⟩ | ⟨a, mem, rfl, given⟩
  · rw [same]
    exact kept others
  · obtain ⟨entry, mem, column, value⟩ := mem_assignments.1 mem
    rw [given, ← value]
    by_cases null : isNull entry.2 = true
    · rw [if_pos null]
      exact .inl rfl
    · rw [if_neg null]
      exact .inr (checked entry mem (Bool.eq_false_iff.2 null) column)

theorem row_within (valid : Valid pf p) (plain : Plain pf p)
    (h : writeRow pf p.data old = some row)
    (input : (∀ a ∈ assignments pf p.data, a.1 ≠ .inputPort) →
      old.inputPort = none ∨ old.inputPort = pf.integer p.inputPort)
    (output : (∀ a ∈ assignments pf p.data, a.1 ≠ .outputPort) →
      old.outputPort = none ∨ old.outputPort = pf.integer p.outputPort) :
    Within pf p row ∧ (KeepsId pf p → p.serverId = some old.id → p.serverId = some row.id) := by
  unfold writeRow at h
  dsimp only at h
  split at h
  · rename_i fits
    obtain ⟨row', written, h⟩ := Option.bind_eq_some_iff.1 h
    split at h
    · cases h
      refine ⟨⟨?_, ?_⟩, fun keeps own => ?_⟩
      · refine number_within (d := .inputPort) rfl written (fun entry mem given column => ?_) input
        rcases (plain entry mem given).1 column with name | same
        · rw [valid.input _ (property_key (c := .inputPort) fits.2 mem name) given]
        · exact same
      · refine number_within (d := .outputPort) rfl written (fun entry mem given column => ?_) output
        rcases (plain entry mem given).2 column with name | same
        · rw [valid.output _ (property_key (c := .outputPort) fits.2 mem name) given]
        · exact same
      · rcases number_foldlM (d := .id) rfl written with ⟨same, -⟩ | ⟨a, mem, id, given⟩
        · exact own.trans same.symm
        · split at given
          · cases given
          · exact (keeps a mem id).symm.trans given.symm
    · cases h
  · cases h

end Assigned

theorem replaces_insert {nextId : ℤ} (valid : Valid pf p) (plain : Plain pf p) (creates : p.serverId = none)
    (keyed : (servers.map (·.id)).Nodup) (h : insert pf p.data nextId servers = some servers') :
    ∃ row, Within pf p row ∧ Replaces pf p row servers servers' := by
  simp only [insert, Option.bind_eq_bind, Option.bind_eq_some_iff] at h
  obtain ⟨row, built, h⟩ := h
  split at h
  · cases h
  · rename_i fresh
    cases h
    have within := (row_within valid plain built (fun _ => .inl rfl) fun _ => .inl rfl).1
    refine ⟨row, within, ?_, ?_, ?_⟩
    · rw [List.map_append, List.nodup_append]
      refine ⟨keyed, by simp, ?_⟩
      intro id mem id' new same
      obtain ⟨r, there, rfl⟩ := List.mem_map.1 mem
      cases same
      rw [List.map_singleton, List.mem_singleton] at new
      exact fresh (List.any_eq_true.2 ⟨r, there, beq_iff_eq.2 new⟩)
    · intro r mem
      rw [creates]
      rcases List.mem_append.1 mem with old | new
      · exact .inr ⟨old, nofun⟩
      · exact .inl (List.mem_singleton.1 new)
    · intro some
      rw [creates] at some
      cases some

theorem rename_keyed {serverId : ℤ} (keyed : (servers.map (·.id)).Nodup)
    (fresh : ∀ r ∈ servers, r.id = row.id → r.id = serverId) :
    ((updateRows (·.id == serverId) (fun _ => row) servers).map (·.id)).Nodup := by
  have ids : (updateRows (·.id == serverId) (fun _ => row) servers).map (·.id) =
      (servers.map (·.id)).map fun id => if id = serverId then row.id else id := by
    simp only [updateRows, List.map_map]
    refine List.map_congr_left fun r _ => ?_
    by_cases own : r.id = serverId
    · simp [own]
    · simp [own]
  rw [ids]
  refine keyed.map_on fun id mem id' mem' same => ?_
  obtain ⟨r, there, rfl⟩ := List.mem_map.1 mem
  obtain ⟨r', there', rfl⟩ := List.mem_map.1 mem'
  by_cases own : r.id = serverId
  · by_cases own' : r'.id = serverId
    · rw [own, own']
    · rw [if_pos own, if_neg own'] at same
      exact absurd (fresh r' there' same.symm) own'
  · by_cases own' : r'.id = serverId
    · rw [if_neg own, if_pos own'] at same
      exact absurd (fresh r there same) own
    · rwa [if_neg own, if_neg own'] at same

theorem replaces_update {serverId : ℤ} (valid : Valid pf p) (plain : Plain pf p)
    (updates : p.serverId = some serverId) (undisturbed : Undisturbed pf p s)
    (keyed : (s.servers.map (·.id)).Nodup)
    (h : update pf serverId p.data s.servers = some servers') :
    servers' = s.servers ∨ ∃ row, Within pf p row ∧ Replaces pf p row s.servers servers' := by
  unfold update at h
  cases found : s.servers.find? (·.id == serverId) with
  | none =>
    rw [found] at h
    exact .inl (Option.some.inj h).symm
  | some old =>
    rw [found] at h
    have there := List.mem_of_find?_eq_some found
    have same := List.find?_some found
    rw [beq_iff_eq] at same
    obtain ⟨input, output⟩ := undisturbed old there (by rw [updates, same])
    simp only [Option.bind_eq_bind, Option.bind_eq_some_iff] at h
    obtain ⟨row, built, h⟩ := h
    split at h
    · cases h
    · rename_i fresh
      cases h
      obtain ⟨within, id⟩ := row_within valid plain built (fun none => .inr (input none))
        fun none => .inr (output none)
      refine .inr ⟨row, within, ?_, ?_, ?_⟩
      · refine rename_keyed keyed fun r mem taken => ?_
        by_contra other
        refine fresh (List.any_eq_true.2 ⟨r, mem, ?_⟩)
        rw [Bool.and_eq_true]
        exact ⟨beq_iff_eq.2 taken, bne_iff_ne.2 other⟩
      · intro r mem
        rcases mem_updateRows.1 mem with ⟨_, _, _, rfl⟩ | ⟨kept, other⟩
        · exact .inl rfl
        · refine .inr ⟨kept, fun own => ?_⟩
          rw [updates, Option.some.injEq] at own
          simp [own] at other
      · exact fun _ keep => id keep (by rw [updates, same])

/-- A row with ports that no other row has keeps the ports unique. -/
theorem unique_replaces (valid : Valid pf p) (within : Within pf p row)
    (replaces : Replaces pf p row servers servers') (keyed : (servers.map (·.id)).Nodup)
    (clear : ∀ r ∈ servers, p.serverId ≠ some r.id → List.Disjoint r.ports (checkedPorts pf p))
    (unique : UniquePorts servers) : UniquePorts servers' := by
  obtain ⟨own, pairs⟩ := (unique_iff keyed).1 unique
  rw [unique_iff replaces.keyed]
  have apart (r : Server) (mem : r ∈ servers) (other : p.serverId ≠ some r.id) :
      List.Disjoint row.ports r.ports :=
    fun n here there => clear r mem other there (within.subset n here)
  constructor
  · intro r mem plain
    rcases replaces.mem r mem with rfl | ⟨old, -⟩
    · exact within.nodup valid
    · exact own r old plain
  · intro r mem r' mem' ne plain plain'
    rcases replaces.mem r mem with rfl | ⟨old, other⟩
    · rcases replaces.mem r' mem' with rfl | ⟨old', other'⟩
      · exact absurd rfl ne
      · exact apart r' old' other'
    · rcases replaces.mem r' mem' with rfl | ⟨old', -⟩
      · exact fun n here there => apart r old other there here
      · exact pairs r old r' old' ne plain plain'

/-- The check of another request is still right after a write that is apart from it. -/
theorem clear_replaces (within : Within pf p row) (replaces : Replaces pf p row servers servers')
    (clear : ∀ r ∈ servers, q.serverId ≠ some r.id → List.Disjoint r.ports (checkedPorts pf q))
    (apart : Apart pf p q) :
    ∀ r ∈ servers', q.serverId ≠ some r.id → List.Disjoint r.ports (checkedPorts pf q) := by
  intro r mem other
  rcases replaces.mem r mem with rfl | ⟨old, -⟩
  · rcases apart with ⟨updates, same, keeps⟩ | disjoint
    · exact absurd (same.trans (replaces.id updates keeps)) other
    · exact fun n here there => disjoint (within.subset n here) there
  · exact clear r old other

theorem available {inputPort outputPort : ℤ} {serverId : Option ℤ}
    (h : assertPortsAvailable inputPort outputPort serverId servers = .ok ()) :
    ∀ r ∈ servers, serverId ≠ some r.id → inputPort ∉ r.ports ∧ outputPort ∉ r.ports := by
  intro r mem other
  unfold assertPortsAvailable at h
  split at h
  · cases h
  · rename_i none
    have free := List.find?_eq_none.1 none r mem
    simp only [assignPortConflict, Bool.and_eq_true, Bool.or_eq_true, beq_iff_eq, bne_iff_ne, other,
      ne_eq, not_false_eq_true, and_true, not_or] at free
    simp [Server.ports, free.1.1.1, free.1.1.2, free.1.2, free.2]

theorem validate_differ {inputPort outputPort : Json}
    (h : validateServerPorts pf (some inputPort) (some outputPort) = .ok ()) :
    ∃ n m, pf.number inputPort = some n ∧ pf.number outputPort = some m ∧ n ≠ m := by
  unfold validateServerPorts at h
  simp only [Option.bind_some] at h
  cases first : pf.number inputPort with
  | none =>
    rw [first] at h
    cases h
  | some n =>
    cases second : pf.number outputPort with
    | none =>
      rw [first, second] at h
      cases h
    | some m =>
      refine ⟨n, m, rfl, rfl, fun same => ?_⟩
      rw [first, second] at h
      dsimp only at h
      rw [if_pos same] at h
      split at h
      · cases h
      · split at h
        · cases h
        · cases h

theorem validated_valid {serverId : Option ℤ} {inputPort outputPort : Option Json}
    (h : validated pf serverId data inputPort outputPort = .checking p)
    (input : ∀ v, property "input_port" data = some v → isNull v = false → inputPort = some v)
    (output : ∀ v, property "output_port" data = some v → isNull v = false →
      outputPort = some v) :
    Valid pf p := by
  unfold validated at h
  split at h
  · rename_i ok
    cases h
    exact ⟨validate_differ ok, fun v given plain => Option.some.inj (input v given plain),
      fun v given plain => Option.some.inj (output v given plain)⟩
  · cases h

theorem orExisting_given {value : Option Json} {existing : Option ℤ} {v : Json}
    (given : value = some v) (plain : isNull v = false) : orExisting value existing = v := by
  rw [given, orExisting, plain]
  rfl

theorem validated_not_writing {serverId : Option ℤ} {inputPort outputPort : Option Json} :
    validated pf serverId data inputPort outputPort ≠ .writing p := by
  unfold validated
  split <;> nofun

theorem Invariant.request {r : Request} {requests : List Request} (inv : Invariant pf s)
    (new : ∀ (j : ℕ) (q : Request), requests[j]? = some q → q = r ∨ s.requests[j]? = some q)
    (valid : ∀ p, r = .checking p → Valid pf p)
    (clear : ∀ p, r = .writing p → Valid pf p ∧ ∀ r ∈ s.servers, p.serverId ≠ some r.id →
      List.Disjoint r.ports (checkedPorts pf p)) :
    Invariant pf { s with requests := requests } := by
  refine ⟨inv.keyed, fun j q held => ?_, fun j q held => ?_, inv.unique⟩
  · rcases held with held | held
    · rcases new j _ held with rfl | old
      · exact valid q rfl
      · exact inv.valid j q (.inl old)
    · rcases new j _ held with rfl | old
      · exact (clear q rfl).1
      · exact inv.valid j q (.inr old)
  · rcases new j _ held with rfl | old
    · exact (clear q rfl).2
    · exact inv.clear j q old

theorem accepted {requests : List Request} {r q : Request} (h : (requests ++ [r])[j]? = some q) :
    q = r ∨ requests[j]? = some q := by
  by_cases old : j < requests.length
  · rw [List.getElem?_append_left old] at h
    exact .inr h
  · rw [List.getElem?_append_right (by omega)] at h
    have mem := List.mem_of_getElem? h
    exact .inl (List.mem_singleton.1 mem)

theorem put_request {requests : List Request} {r q : Request}
    (h : (requests.set i r)[j]? = some q) : q = r ∨ requests[j]? = some q := by
  by_cases same : i = j
  · subst same
    rw [List.getElem?_set] at h
    simp only [if_true] at h
    split at h
    · exact .inl (Option.some.inj h).symm
    · cases h
  · rw [List.getElem?_set_ne same] at h
    exact .inr h

theorem put_answered {requests : List Request} {r q : Request}
    (h : (requests.set i r)[i]? = some q) : q = r := by
  rw [List.getElem?_set] at h
  simp only [if_true] at h
  split at h
  · exact (Option.some.inj h).symm
  · cases h

theorem Invariant.answered (inv : Invariant pf s) (i : ℕ) : Invariant pf (s.put i .answered) :=
  inv.request (fun _ _ => put_request) (fun _ same => by cases same) fun _ same => by cases same

theorem Invariant.accepted {r : Request} (inv : Invariant pf s) (before : ∀ p, r ≠ .checking p)
    (apart : ∀ p, r ≠ .writing p) : Invariant pf (s.accept r) :=
  inv.request (fun _ _ => ServerPorts.accepted) (fun p same => absurd same (before p))
    fun p same => absurd same (apart p)

theorem proceed_invariant {nextId : ℤ} {r : Request} (inv : Invariant pf s)
    (careful : Careful pf s (.proceed i nextId)) (held : s.requests[i]? = some r)
    (h : proceed pf i nextId s r = some t) : Invariant pf t := by
  cases r with
  | finding serverId data =>
    simp only [proceed] at h
    split at h
    · cases h
      exact inv.answered i
    · cases h
      refine inv.request (fun _ _ => put_request) (fun p checks => ?_)
        fun p writes => absurd writes validated_not_writing
      exact validated_valid checks (fun v given plain => by rw [orExisting_given given plain])
        fun v given plain => by rw [orExisting_given given plain]
  | checking p =>
    simp only [proceed, Option.bind_eq_bind, Option.bind_eq_some_iff] at h
    obtain ⟨inputPort, first, outputPort, second, h⟩ := h
    split at h
    · rename_i ok
      cases h
      refine inv.request (fun _ _ => put_request) (fun _ same => by cases same) fun q writes => ?_
      cases writes
      refine ⟨inv.valid i p (.inl held), fun r mem other n here there => ?_⟩
      obtain ⟨input, output⟩ := available ok r mem other
      simp only [checkedPorts, first, second, Option.toList_some, List.singleton_append,
        List.mem_cons, List.not_mem_nil, or_false] at there
      rcases there with rfl | rfl
      · exact input here
      · exact output here
    · cases h
      exact inv.answered i
  | writing p =>
    simp only [proceed, Option.bind_eq_bind, Option.bind_eq_some_iff] at h
    obtain ⟨servers, written, h⟩ := h
    cases h
    have valid := inv.valid i p (.inr held)
    obtain ⟨plain, undisturbed, apart⟩ := careful p held
    have answered := inv.answered i
    have replaces : servers = s.servers ∨ ∃ row, Within pf p row ∧
        Replaces pf p row s.servers servers := by
      unfold write at written
      cases target : p.serverId with
      | none =>
        rw [target] at written
        exact .inr (replaces_insert valid plain target inv.keyed written)
      | some serverId =>
        rw [target] at written
        exact replaces_update valid plain target undisturbed inv.keyed written
    rcases replaces with rfl | ⟨row, within, replaces⟩
    · exact answered
    · refine ⟨replaces.keyed, answered.valid, fun j q writes => ?_,
        unique_replaces valid within replaces inv.keyed (inv.clear i p held) inv.unique⟩
      have other : j ≠ i := by
        rintro rfl
        rcases put_answered writes with ⟨⟩
      have before := (put_request writes).resolve_left nofun
      exact clear_replaces within replaces (inv.clear j q before) (apart j q other before)
  | answered => cases h

theorem step_invariant (inv : Invariant pf s) (careful : Careful pf s a)
    (h : step pf s a = some t) : Invariant pf t := by
  cases a with
  | create data =>
    cases h
    exact inv.request (fun _ _ => accepted)
      (fun p checks => validated_valid checks (fun v given _ => given) fun v given _ => given)
      fun p writes => absurd writes validated_not_writing
  | update serverId data =>
    cases serverId with
    | none =>
      cases h
      exact inv.accepted (fun _ same => by cases same) fun _ same => by cases same
    | some serverId =>
      cases h
      exact inv.accepted (fun _ same => by cases same) fun _ same => by cases same
  | patch serverId data =>
    cases h
    exact inv.accepted (fun _ same => by cases same) fun _ same => by cases same
  | proceed i nextId =>
    obtain ⟨r, held, h⟩ := Option.bind_eq_some_iff.1 h
    exact proceed_invariant inv careful held h
  | fail i =>
    simp only [step] at h
    split at h
    · cases h
      exact inv.answered i
    · cases h

/-- In a run whose requests overlap only with requests for other ports, no port number ever occurs
twice. -/
theorem ports_unique {log : List (State × Action)} (run : (service pf).Run log s)
    (careful : ∀ e ∈ log, Careful pf e.1 e.2) : UniquePorts s.servers := by
  have start : ∀ s, (service pf).initial s → Invariant pf s := by
    intro s initial
    refine ⟨initial.keyed, ?_, ?_, initial.unique⟩
    · rw [initial.idle]
      simp
    · rw [initial.idle]
      simp
  refine (run.invariant start (fun s a inv enabled careful => ?_) careful).unique
  obtain ⟨t, taken⟩ := Option.isSome_iff_exists.1 enabled
  have next : (service pf).next s a = t := by
    change (step pf s a).getD s = t
    rw [taken, Option.getD_some]
  rw [next]
  exact step_invariant inv careful taken

namespace Sample

def columns : List Column :=
  [.id, .userId, .inputPort, .outputPort, .enable, .enableSsl, .enableInputSsl, .description,
    .totalBytesReceived, .totalBytesSent]

theorem find_key (c : Column) : (columns.find? fun d => d.key == trim c.key) = some c := by
  cases c <;> decide +kernel

def plain : Platform where
  number
    | .integer n => some n
    | .null => some 0
    | _ => none
  integer
    | .integer n => some n
    | _ => none
  boolean
    | .bool b => some b
    | _ => none
  takes _ _ := true
  column key := columns.find? fun c => c.key == trim key
  column_key := find_key
  number_null := rfl
  number_integer _ := rfl
  integer_integer _ := rfl
  agree v n m number integer := by
    cases v with
    | integer k =>
      cases number
      cases integer
      rfl
    | _ => cases integer

def asking (inputPort outputPort : ℤ) : Data :=
  [("input_port", .integer inputPort), ("output_port", .integer outputPort),
    ("enable", .bool true), (" description", .string "office")]

def start : State := ⟨[], []⟩

theorem initial_start : Initial start := ⟨by simp [start], by simp [start], rfl, by decide⟩

def overlapping (first second : Data) : List Action :=
  [.create first, .create second, .proceed 0 1, .proceed 1 1, .proceed 0 1, .proceed 1 2]

end Sample

theorem distinct_ports_unique : ∃ log s, (service Sample.plain).Run log s ∧
    s.servers.length = 2 ∧ UniquePorts s.servers := by
  have run : (service Sample.plain).Run [] Sample.start := .start Sample.initial_start
  obtain ⟨⟨log, s⟩, followed⟩ : ∃ r, (service Sample.plain).follow [] Sample.start
      (Sample.overlapping (Sample.asking 5000 5001) (Sample.asking 5002 5003)) = some r := by
    exact ⟨_, rfl⟩
  refine ⟨log, s, run.follow followed, ?_, ports_unique (run.follow followed) ?_⟩
  · cases followed
    rfl
  · cases followed
    intro e mem
    simp only [List.nil_append, List.mem_append, List.mem_singleton] at mem
    rcases mem with ((((rfl | rfl) | rfl) | rfl) | rfl) | rfl
    · trivial
    · trivial
    · intro p held
      cases held
    · intro p held
      cases held
    · intro p held
      cases held
      refine ⟨by decide +kernel, nofun, fun j q other writes => .inr ?_⟩
      rcases j with _ | _ | j
      · exact absurd rfl other
      · cases writes
        simp [List.Disjoint, checkedPorts, Sample.plain]
      · cases writes
    · intro p held
      cases held
      refine ⟨by decide +kernel, fun r mem own => (nomatch own), fun j q other writes => .inr ?_⟩
      rcases j with _ | _ | j
      · cases writes
      · exact absurd rfl other
      · cases writes

theorem same_port_twice : ¬ ∀ (pf : Platform) (log : List (State × Action)) (s : State),
    (service pf).Run log s → UniquePorts s.servers := by
  intro always
  obtain ⟨log, s, run, twice⟩ := System.Run.follow_any (.start Sample.initial_start)
    (Sample.overlapping (Sample.asking 5000 5001) (Sample.asking 5000 5002))
    (fun r => !decide (UniquePorts r.2.servers)) (m := service Sample.plain) (by decide +kernel)
  simp only [Bool.not_eq_true', decide_eq_false_iff_not] at twice
  exact twice (always Sample.plain log s run)

end ServerPorts
