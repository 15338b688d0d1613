import Mathlib.Algebra.Order.Ring.Rat
import Mathlib.Data.List.Nodup
import NetPort.Doubles

/-! The client releases of the backend: `client-downloads.js`, `client-releases.js` and the route
`/files/build` of `app.js`, over the directories that they search. -/
namespace ClientReleases

open Doubles (Double number)

/-- What a name in a directory leads to: a regular file, which may not be readable, something else,
or nothing that `statSync` finds. -/
inductive Entry where
  | file (content : List UInt8) (readable : Bool)
  | directory
  | broken
  deriving DecidableEq

/-- A directory, as `readdirSync` lists it. -/
structure Directory where
  entries : List (String × Entry)
  names : (entries.map (·.1)).Nodup
  plain : ∀ e ∈ entries, '/' ∉ e.1.toList

/-- The directories under their resolved paths; one that is missing or cannot be listed is
`none`. -/
abbrev Layout := String → Option Directory

def entryAt (layout : Layout) (dir name : String) : Option Entry :=
  (layout dir).bind fun d => (d.entries.find? (·.1 = name)).map (·.2)

def isClientArtifactName (name : String) : Bool :=
  "module_net_port_client-".toList.isPrefixOf name.toList && !".dir".toList.isSuffixOf name.toList

def dirHasClientBinary (layout : Layout) (dir : String) : Bool :=
  (layout dir).any fun d => d.entries.any fun e => isClientArtifactName e.1

/-- The loop over `CLIENT_SEARCH_DIRS`; `seen` holds what `result` does. -/
def resolveBuildClientPaths (searchDirs : List String) (layout : Layout) : List String :=
  searchDirs.foldl (fun result resolved =>
    if resolved ∈ result ∨ ¬dirHasClientBinary layout resolved then result
    else result ++ [resolved]) []

structure Download where
  filename : String
  sizeBytes : ℕ
  deriving DecidableEq

/-- One turn of the inner loop of `listClientDownloads`. -/
def addDownload (byFilename : List Download) (e : String × Entry) : List Download :=
  if !isClientArtifactName e.1 || byFilename.any (·.filename = e.1) then byFilename
  else match e.2 with
    | .file content _ => byFilename ++ [⟨e.1, content.length⟩]
    | _ => byFilename

def addDownloads (layout : Layout) (byFilename : List Download) (clientDir : String) :
    List Download :=
  match layout clientDir with
  | none => byFilename
  | some d => d.entries.foldl addDownload byFilename

/-- What JavaScript and OpenSSL provide: `localeCompare(a, b) <= 0`, `toLowerCase`, `trim` and the
SHA-256 digest. -/
structure Host where
  localeLe : String → String → Bool
  toLowerCase : String → String
  trim : String → String
  sha256Hex : List UInt8 → String

def listClientDownloads (host : Host) (paths : List String) (layout : Layout) : List Download :=
  (paths.foldl (addDownloads layout) []).mergeSort fun a b => host.localeLe a.filename b.filename

structure Query where
  platform : Option String
  arch : Option String
  current : Option String
  version : Option String

/-- `value || default` -/
def orElse (value : Option String) (default : String) : String :=
  match value with
  | none => default
  | some text => if text = "" then default else text

def normalizePlatform (host : Host) (value : Option String) : String :=
  let platform := host.toLowerCase (orElse value "linux")
  if platform = "win" ∨ platform = "windows" then "windows" else "linux"

def normalizeArch (host : Host) (value : Option String) : String :=
  let arch := host.toLowerCase (orElse value "amd64")
  if arch = "x64" ∨ arch = "x86_64" ∨ arch = "amd64" then "amd64"
  else if arch = "arm" ∨ arch = "armv7" ∨ arch = "armhf" then "armhf"
  else if arch = "arm64" ∨ arch = "aarch64" then "aarch64"
  else arch

def resolveArtifactFilename (platform arch version : String) : String :=
  let base := "module_net_port_client-" ++ version
  if platform = "windows" then base ++ ".exe"
  else if arch = "armhf" then base ++ "-armhf"
  else if arch = "aarch64" then base ++ "-aarch64"
  else base

inductive Error where
  | noEntry | isDirectory | accessDenied | invalidArgument
  deriving DecidableEq

/-- `sha256File`: the whole file is read. -/
def sha256File (host : Host) : Option Entry → Except Error String
  | some (.file content true) => .ok (host.sha256Hex content)
  | some (.file _ false) => .error .accessDenied
  | some .directory => .error .isDirectory
  | some .broken => .error .noEntry
  | none => .error .noEntry

structure Artifact where
  sizeBytes : ℕ
  sha256 : String
  downloadPath : String
  deriving DecidableEq

structure Release where
  version : String
  platform : String
  arch : String
  filename : String
  artifact : Option Artifact
  deriving DecidableEq

/-- The directories, unchanged since the start, and what `readPublishedVersion` returns. -/
structure Installation where
  searchDirs : List String
  layout : Layout
  published : Option String

def Installation.paths (i : Installation) : List String :=
  resolveBuildClientPaths i.searchDirs i.layout

def getLatestClientRelease (host : Host) (i : Installation) (query : Query) :
    Except Error (Option Release) :=
  let platform := normalizePlatform host query.platform
  let arch := normalizeArch host query.arch
  match i.published with
  | none => .ok none
  | some version =>
    if version = "" then .ok none
    else
      let filename := resolveArtifactFilename platform arch version
      let downloads := listClientDownloads host i.paths i.layout
      match downloads.find? (·.filename = filename) with
      | none => .ok (some ⟨version, platform, arch, filename, none⟩)
      | some artifact =>
        match i.paths.head? with
        | none => .error .invalidArgument
        | some clientDir =>
          match sha256File host (entryAt i.layout clientDir filename) with
          | .error e => .error e
          | .ok sha256 =>
            .ok (some ⟨version, platform, arch, filename,
              some ⟨artifact.sizeBytes, sha256, "/files/build/" ++ filename⟩⟩)

/-- The parts of a version; `Number(part) || 0` -/
def versionParts (version : String) : List Double :=
  ((orElse (some version) "0.0.0").toList.splitOn '.').map fun part => Double.orZero (number part)

def compareParts (left right : List Double) : List ℕ → ℤ
  | [] => 0
  | i :: rest =>
    let diff := Double.sub (Double.orZero left[i]?) (Double.orZero right[i]?)
    if diff ≠ Double.zero then
      if Double.lt diff Double.zero then -1 else 1
    else compareParts left right rest

def compareVersions (a b : String) : ℤ :=
  let left := versionParts a
  let right := versionParts b
  compareParts left right (List.range (max left.length right.length))

/-- The answer of `checkClientUpdate`; `reason` is left out where the source leaves it out. -/
structure UpdateCheck where
  current : Option String
  latest : Option Release
  updateAvailable : Bool
  reason : Option String
  deriving DecidableEq

def checkClientUpdate (host : Host) (i : Installation) (query : Query) :
    Except Error UpdateCheck :=
  let current := host.trim (orElse query.current (orElse query.version ""))
  match getLatestClientRelease host i query with
  | .error e => .error e
  | .ok none => .ok ⟨some current, none, false, some "version_unavailable"⟩
  | .ok (some latest) =>
    if latest.artifact.isNone then
      .ok ⟨some current, some latest, false, some "artifact_not_found"⟩
    else
      let updateAvailable := current = "" ∨ compareVersions current latest.version < 0
      .ok ⟨if current = "" then none else some current, some latest, updateAvailable, none⟩

/-- `path.basename` -/
def basename (path : List Char) : List Char :=
  ((path.reverse.dropWhile (· = '/')).takeWhile (· ≠ '/')).reverse

/-- The loop of the route: the first directory that has a regular file of the name answers with it;
`sendFile` answers with an error if it cannot be read. -/
def sendFirst (layout : Layout) (filename : String) : List String → Option (List UInt8)
  | [] => none
  | clientDir :: rest =>
    match entryAt layout clientDir filename with
    | some (.file content readable) => if readable then some content else none
    | _ => sendFirst layout filename rest

/-- The file that a GET of a path under `/files/build`, once it is decoded, is answered with. -/
def getBuild (i : Installation) (path : String) : Option (List UInt8) :=
  let filename := String.ofList (basename path.toList)
  if !isClientArtifactName filename then none
  else sendFirst i.layout filename i.paths

/-- The artifact describes the file that its download path leads to. -/
def Describes (host : Host) (i : Installation) (a : Artifact) : Prop :=
  ∃ content, getBuild i a.downloadPath = some content ∧ a.sizeBytes = content.length ∧
    a.sha256 = host.sha256Hex content

structure Consistent (host : Host) (i : Installation) (query : Query) : Prop where
  latest : ∃ r, getLatestClientRelease host i query = .ok r ∧
    ∀ release ∈ r, ∀ a ∈ release.artifact, Describes host i a
  check : ∃ u, checkClientUpdate host i query = .ok u ∧
    ∀ release ∈ u.latest, ∀ a ∈ release.artifact, Describes host i a

def Listed (i : Installation) (filename : String) : Prop :=
  isClientArtifactName filename ∧ ∃ dir ∈ i.paths, ∃ content readable,
    entryAt i.layout dir filename = some (.file content readable)

def InFirst (i : Installation) (filename : String) : Prop :=
  ∃ dir ∈ i.paths.head?, ∃ content, entryAt i.layout dir filename = some (.file content true)

def filenameFor (host : Host) (query : Query) (version : String) : String :=
  resolveArtifactFilename (normalizePlatform host query.platform) (normalizeArch host query.arch)
    version

variable {host : Host} {i : Installation} {query : Query} {layout : Layout} {name dir : String}
  {acc : List Download} {paths : List String}

section Downloads

def download (name : String) : Option Entry → Option Download
  | some (.file content _) => some ⟨name, content.length⟩
  | _ => none

def named (name : String) (downloads : List Download) : Option Download :=
  downloads.find? (·.filename = name)

theorem named_append (xs ys : List Download) :
    named name (xs ++ ys) = (named name xs).or (named name ys) := List.find?_append

theorem named_isSome : (named name acc).isSome = acc.any (·.filename = name) := by
  rw [Bool.eq_iff_iff, named, List.find?_isSome, List.any_eq_true]

theorem named_addDownload (e : String × Entry) (artifact : isClientArtifactName name) :
    named name (addDownload acc e) =
      (named name acc).or (if e.1 = name then download name (some e.2) else none) := by
  obtain ⟨key, entry⟩ := e
  by_cases same : key = name
  · subst same
    simp only [addDownload, artifact, Bool.not_true, Bool.false_or, ← named_isSome, if_true]
    cases found : named key acc with
    | some x => simp [found]
    | none =>
      cases entry with
      | file content readable =>
        rw [Option.isSome_none, if_neg Bool.false_ne_true, named_append, found]
        simp [named, download]
      | directory => simp [found, download]
      | broken => simp [found, download]
  · rw [if_neg same, Option.or_none]
    unfold addDownload
    split
    · rfl
    · split
      · rw [named_append]
        simp [named, same]
      · rfl

theorem named_entries {entries : List (String × Entry)} (nodup : (entries.map (·.1)).Nodup)
    (artifact : isClientArtifactName name) : named name (entries.foldl addDownload acc) =
      (named name acc).or (download name ((entries.find? (·.1 = name)).map (·.2))) := by
  induction entries generalizing acc with
  | nil => exact (Option.or_none).symm
  | cons e rest ih =>
    obtain ⟨new, nodup⟩ := List.nodup_cons.1 nodup
    rw [List.foldl_cons, ih nodup, named_addDownload e artifact, Option.or_assoc]
    by_cases same : e.1 = name
    · have absent : rest.find? (·.1 = name) = none := by
        refine List.find?_eq_none.2 fun x mem => ?_
        rw [decide_eq_true_eq]
        intro also
        refine new (List.mem_map.2 ⟨x, mem, ?_⟩)
        exact also.trans same.symm
      simp [same, absent, download]
    · simp [same]

/-- The first directory with a regular file of the name decides. -/
theorem named_directories (artifact : isClientArtifactName name) :
    named name (paths.foldl (addDownloads layout) acc) = (named name acc).or
      (paths.findSome? fun dir => download name (entryAt layout dir name)) := by
  induction paths generalizing acc with
  | nil => exact (Option.or_none).symm
  | cons dir rest ih =>
    have here : named name (addDownloads layout acc dir) =
        (named name acc).or (download name (entryAt layout dir name)) := by
      unfold addDownloads entryAt
      cases layout dir with
      | none => exact (Option.or_none).symm
      | some d => exact named_entries d.names artifact
    rw [List.foldl_cons, ih, here, Option.or_assoc, List.findSome?_cons]
    cases download name (entryAt layout dir name) <;> rfl

structure Names (downloads : List Download) : Prop where
  nodup : (downloads.map (·.filename)).Nodup
  artifacts : ∀ x ∈ downloads, isClientArtifactName x.filename

theorem Names.addDownload {e : String × Entry} (h : Names acc) : Names (addDownload acc e) := by
  unfold ClientReleases.addDownload
  split
  · exact h
  · rename_i fresh
    rw [Bool.or_eq_true, not_or, Bool.not_eq_true', Bool.not_eq_false] at fresh
    obtain ⟨artifact, fresh⟩ := fresh
    split
    · constructor
      · rw [List.map_append, List.map_singleton]
        refine List.Nodup.append h.nodup (List.nodup_singleton _) ?_
        intro key old new
        obtain ⟨x, mem, rfl⟩ := List.mem_map.1 old
        exact fresh (List.any_eq_true.2 ⟨x, mem, decide_eq_true (List.mem_singleton.1 new)⟩)
      · intro x mem
        rcases List.mem_append.1 mem with old | new
        · exact h.artifacts x old
        · rw [List.mem_singleton.1 new]
          exact artifact
    · exact h

theorem names_directories : Names (paths.foldl (addDownloads layout) []) := by
  have entries (es : List (String × Entry)) (acc : List Download) (h : Names acc) :
      Names (es.foldl ClientReleases.addDownload acc) := by
    induction es generalizing acc with
    | nil => exact h
    | cons e rest ih => exact ih _ h.addDownload
  have all (acc : List Download) (h : Names acc) : Names (paths.foldl (addDownloads layout) acc) := by
    induction paths generalizing acc with
    | nil => exact h
    | cons dir rest ih =>
      refine ih _ ?_
      unfold addDownloads
      split
      · exact h
      · exact entries _ _ h
  exact all [] ⟨.nil, by simp⟩

theorem named_perm {xs ys : List Download} (perm : xs.Perm ys)
    (nodup : (xs.map (·.filename)).Nodup) : named name xs = named name ys := by
  have is_named {key : String} {zs : List Download} {x : Download}
      (h : named key zs = some x) : x.filename = key := by
    have := List.find?_some h
    exact of_decide_eq_true this
  have found (zs : List Download) (nodup : (zs.map (·.filename)).Nodup) (x : Download) :
      named name zs = some x ↔ x ∈ zs ∧ x.filename = name := by
    constructor
    · intro h
      exact ⟨List.mem_of_find?_eq_some h, is_named h⟩
    · rintro ⟨mem, rfl⟩
      have some_ : (named x.filename zs).isSome := by
        rw [named_isSome]
        exact List.any_eq_true.2 ⟨x, mem, decide_eq_true rfl⟩
      obtain ⟨y, h⟩ := Option.isSome_iff_exists.1 some_
      have := List.inj_on_of_nodup_map nodup (List.mem_of_find?_eq_some h) mem (is_named h)
      rw [h, this]
  ext x
  rw [found xs nodup, found ys ((perm.map _).nodup_iff.1 nodup), perm.mem_iff]

/-- The listing has the artifact of the first directory that has it as a regular file. -/
theorem named_listing : named name (listClientDownloads host paths layout) =
    if isClientArtifactName name then
      paths.findSome? fun dir => download name (entryAt layout dir name) else none := by
  have names := @names_directories layout paths
  have sorted : named name (listClientDownloads host paths layout) =
      named name (paths.foldl (addDownloads layout) []) :=
    (named_perm (List.mergeSort_perm _ _).symm names.nodup).symm
  rw [sorted]
  split
  · rename_i artifact
    rw [named_directories artifact]
    rfl
  · rename_i other
    refine List.find?_eq_none.2 fun x mem => ?_
    rw [decide_eq_true_eq]
    rintro rfl
    exact other (names.artifacts x mem)

end Downloads

section Served

theorem basename_build (plain : '/' ∉ name.toList) (nonempty : name.toList ≠ []) :
    basename ("/files/build/" ++ name).toList = name.toList := by
  have last : ∃ c rest, name.toList.reverse = c :: rest := by
    cases h : name.toList.reverse with
    | nil => exact absurd (List.reverse_eq_nil_iff.1 h) nonempty
    | cons c rest => exact ⟨c, rest, rfl⟩
  obtain ⟨c, rest, reversed⟩ := last
  have kept : ∀ x ∈ name.toList.reverse, decide (x ≠ '/') = true := by
    intro x mem
    refine decide_eq_true ?_
    rintro rfl
    exact plain (List.mem_reverse.1 mem)
  have other : c ≠ '/' := of_decide_eq_true (kept c (reversed ▸ List.mem_cons_self))
  have whole : ("/files/build/" ++ name).toList.reverse =
      name.toList.reverse ++ '/' :: "dliub/selif/".toList := by
    rw [String.toList_append, List.reverse_append]
    rfl
  have stays : (name.toList.reverse ++ '/' :: "dliub/selif/".toList).dropWhile (· = '/') =
      name.toList.reverse ++ '/' :: "dliub/selif/".toList := by
    rw [reversed, List.cons_append, List.dropWhile_cons_of_neg (by simpa using other)]
  rw [basename, whole, stays, List.takeWhile_append_of_pos kept]
  simp

theorem entryAt_plain {e : Entry} (there : entryAt layout dir name = some e) :
    '/' ∉ name.toList := by
  obtain ⟨d, -, found⟩ := Option.bind_eq_some_iff.1 there
  obtain ⟨x, at_, -⟩ := Option.map_eq_some_iff.1 found
  have same : x.1 = name := by
    have := List.find?_some at_
    exact of_decide_eq_true this
  exact same ▸ d.plain x (List.mem_of_find?_eq_some at_)

theorem artifact_nonempty (artifact : isClientArtifactName name) : name.toList ≠ [] := by
  intro empty
  simp [isClientArtifactName, empty] at artifact

/-- A GET of the file of an artifact comes to the first directory. -/
theorem getBuild_first {content : List UInt8} (artifact : isClientArtifactName name)
    (first : dir ∈ i.paths.head?) (there : entryAt i.layout dir name = some (.file content true)) :
    getBuild i ("/files/build/" ++ name) = some content := by
  obtain ⟨rest, paths⟩ : ∃ rest, i.paths = dir :: rest := by
    cases h : i.paths with
    | nil => rw [h] at first; cases first
    | cons d rest =>
      rw [h] at first
      cases first
      exact ⟨rest, rfl⟩
  have filename : String.ofList (basename ("/files/build/" ++ name).toList) = name := by
    rw [basename_build (entryAt_plain there) (artifact_nonempty artifact), String.ofList_toList]
  simp only [getBuild, filename, artifact, paths, sendFirst, there, Bool.not_true, if_true]
  exact if_neg Bool.false_ne_true

end Served

theorem download_isSome {e : Option Entry} :
    (download name e).isSome ↔ ∃ content readable, e = some (.file content readable) := by
  rcases e with _ | _ | _ | _ <;> simp [download]

theorem listing_isSome : (named name (listClientDownloads host i.paths i.layout)).isSome ↔
    Listed i name := by
  rw [named_listing]
  split
  · rename_i artifact
    rw [List.findSome?_isSome_iff]
    simp only [download_isSome, Listed, artifact, true_and]
  · rename_i other
    exact iff_of_false Bool.false_ne_true fun listed => other listed.1

theorem latest_eq {version : String} (published : i.published = some version)
    (nonempty : version ≠ "") : getLatestClientRelease host i query =
    match named (filenameFor host query version) (listClientDownloads host i.paths i.layout) with
    | none => .ok (some ⟨version, normalizePlatform host query.platform,
        normalizeArch host query.arch, filenameFor host query version, none⟩)
    | some artifact =>
      match i.paths.head? with
      | none => .error .invalidArgument
      | some clientDir =>
        match sha256File host (entryAt i.layout clientDir (filenameFor host query version)) with
        | .error e => .error e
        | .ok sha256 => .ok (some ⟨version, normalizePlatform host query.platform,
            normalizeArch host query.arch, filenameFor host query version,
            some ⟨artifact.sizeBytes, sha256,
              "/files/build/" ++ filenameFor host query version⟩⟩) := by
  unfold getLatestClientRelease
  rw [published]
  exact if_neg nonempty

theorem sha256File_ok {e : Option Entry} {sha256 : String} (read : sha256File host e = .ok sha256) :
    ∃ content, e = some (.file content true) ∧ sha256 = host.sha256Hex content := by
  rcases e with _ | ⟨content, _ | _⟩ | _ | _
  all_goals cases read
  exact ⟨content, rfl, rfl⟩

theorem latest_of_first {version : String} (published : i.published = some version)
    (nonempty : version ≠ "") (listed : Listed i (filenameFor host query version))
    {content : List UInt8} (first : dir ∈ i.paths.head?)
    (there : entryAt i.layout dir (filenameFor host query version) = some (.file content true)) :
    getLatestClientRelease host i query = .ok (some ⟨version, normalizePlatform host query.platform,
      normalizeArch host query.arch, filenameFor host query version,
      some ⟨content.length, host.sha256Hex content,
        "/files/build/" ++ filenameFor host query version⟩⟩) := by
  have found : named (filenameFor host query version)
      (listClientDownloads host i.paths i.layout) =
        some ⟨filenameFor host query version, content.length⟩ := by
    rw [named_listing, if_pos listed.1]
    cases h : i.paths with
    | nil =>
      rw [h] at first
      cases first
    | cons d rest =>
      rw [h] at first
      cases first
      simp [there, download]
  rw [latest_eq published nonempty]
  simp only [found, Option.mem_def.1 first, there, sha256File]

theorem latest_unlisted {version : String} (published : i.published = some version)
    (nonempty : version ≠ "") (unlisted : ¬Listed i (filenameFor host query version)) :
    getLatestClientRelease host i query = .ok (some ⟨version, normalizePlatform host query.platform,
      normalizeArch host query.arch, filenameFor host query version, none⟩) := by
  have absent : named (filenameFor host query version)
      (listClientDownloads host i.paths i.layout) = none :=
    Option.not_isSome_iff_eq_none.1 (mt listing_isSome.1 unlisted)
  rw [latest_eq published nonempty, absent]

/-- A release is listed but not to be read from the first directory: the digest fails. -/
theorem first_of_latest_ok {version : String} (published : i.published = some version)
    (nonempty : version ≠ "") (listed : Listed i (filenameFor host query version))
    {r : Option Release} (ok : getLatestClientRelease host i query = .ok r) :
    InFirst i (filenameFor host query version) := by
  obtain ⟨artifact, found⟩ := Option.isSome_iff_exists.1 (listing_isSome.2 listed)
  rw [latest_eq published nonempty, found] at ok
  cases first : i.paths.head? with
  | none =>
    rw [first] at ok
    cases ok
  | some dir =>
    rw [first] at ok
    cases read : sha256File host (entryAt i.layout dir (filenameFor host query version)) with
    | error e =>
      simp only [read] at ok
      cases ok
    | ok sha256 =>
      obtain ⟨content, there, -⟩ := sha256File_ok read
      exact ⟨dir, first, content, there⟩

/-- The check reports the release that the other function returns. -/
theorem check_of_latest {r : Option Release} (ok : getLatestClientRelease host i query = .ok r) :
    ∃ u, checkClientUpdate host i query = .ok u ∧ u.latest = r := by
  unfold checkClientUpdate
  rw [ok]
  cases r with
  | none => exact ⟨_, rfl, rfl⟩
  | some release =>
    dsimp only
    split
    · exact ⟨_, rfl, rfl⟩
    · exact ⟨_, rfl, rfl⟩

theorem consistent_of_latest {r : Option Release}
    (ok : getLatestClientRelease host i query = .ok r)
    (describes : ∀ release ∈ r, ∀ a ∈ release.artifact, Describes host i a) :
    Consistent host i query := by
  obtain ⟨u, checked, same⟩ := check_of_latest ok
  exact ⟨⟨r, ok, describes⟩, u, checked, same ▸ describes⟩

/-- What is reported and what is served agree exactly if a file that is listed at all can be read
from the first directory. -/
theorem releases_consistent_iff (host : Host) (i : Installation) (query : Query) :
    Consistent host i query ↔ ∀ version ∈ i.published, version ≠ "" →
      Listed i (filenameFor host query version) → InFirst i (filenameFor host query version) := by
  constructor
  · intro h version published nonempty listed
    obtain ⟨r, ok, -⟩ := h.latest
    exact first_of_latest_ok published nonempty listed ok
  · intro first
    cases published : i.published with
    | none =>
      have ok : getLatestClientRelease host i query = .ok none := by
        unfold getLatestClientRelease
        rw [published]
      exact consistent_of_latest ok nofun
    | some version =>
      by_cases nonempty : version = ""
      · have ok : getLatestClientRelease host i query = .ok none := by
          unfold getLatestClientRelease
          rw [published]
          exact if_pos nonempty
        exact consistent_of_latest ok nofun
      · by_cases listed : Listed i (filenameFor host query version)
        · obtain ⟨dir, head, content, there⟩ := first version published nonempty listed
          refine consistent_of_latest (latest_of_first published nonempty listed head there) ?_
          rintro release ⟨⟩ a ⟨⟩
          exact ⟨content, getBuild_first listed.1 head there, rfl, rfl⟩
        · refine consistent_of_latest (latest_unlisted published nonempty listed) ?_
          rintro release ⟨⟩ a ⟨⟩

section TwoDirectories

def plainHost : Host := ⟨fun a b => a = b, id, id, fun _ => ""⟩

def oldClients : Directory :=
  ⟨[("module_net_port_client-0.0.3", .file [1] true)], by decide, by decide⟩

def newClients : Directory :=
  ⟨[("module_net_port_client-0.0.4", .file [1, 2] true)], by decide, by decide⟩

def twoDirectories : Installation where
  searchDirs := ["/root/net_port/source/build/client", "/root/net_port/source/artifacts/clients"]
  layout dir :=
    if dir = "/root/net_port/source/build/client" then some oldClients
    else if dir = "/root/net_port/source/artifacts/clients" then some newClients
    else none
  published := some "0.0.4"

def linux : Query := ⟨none, none, none, none⟩

/-- The file is there and is served, but its digest is looked for in the first directory. -/
theorem digest_not_found : getBuild twoDirectories "/files/build/module_net_port_client-0.0.4" =
      some [1, 2] ∧
    (¬∃ r, getLatestClientRelease plainHost twoDirectories linux = .ok r) ∧
      ¬Consistent plainHost twoDirectories linux := by
  suffices throws : ¬∃ r, getLatestClientRelease plainHost twoDirectories linux = .ok r by
    refine ⟨by decide +kernel, throws, fun consistent => throws ?_⟩
    obtain ⟨r, ok, -⟩ := consistent.latest
    exact ⟨r, ok⟩
  rintro ⟨r, ok⟩
  have listed : Listed twoDirectories (filenameFor plainHost linux "0.0.4") := by
    refine ⟨by decide +kernel, "/root/net_port/source/artifacts/clients", ?_, [1, 2], true, ?_⟩
    · decide +kernel
    · decide +kernel
  obtain ⟨dir, first, content, there⟩ := first_of_latest_ok rfl (by decide) listed ok
  have here : dir = "/root/net_port/source/build/client" := by
    have head : twoDirectories.paths.head? = some "/root/net_port/source/build/client" := by
      decide +kernel
    exact Option.some.inj (first.symm.trans head)
  subst here
  have absent : entryAt twoDirectories.layout "/root/net_port/source/build/client"
      (filenameFor plainHost linux "0.0.4") = none := by decide +kernel
  rw [absent] at there
  cases there

end TwoDirectories

end ClientReleases
