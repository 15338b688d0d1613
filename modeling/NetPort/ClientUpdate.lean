import NetPort.PrometheusCounters
import NetPort.ShellWords
import NetPort.StatementPrograms

/-! The update of the client by itself: what it asks the shell for, and what it does with files. -/
namespace ClientUpdate

open StatementPrograms ShellWords
open PrometheusCounters (bytes)

abbrev Text := List UInt8

def PATH_MAX : ℕ := 4096

def VERSION : Text := bytes "0.0.4"

def snprintf (size : ℕ) (parts : List Text) : Text := parts.flatten.take (size - 1)

inductive Op where
  | popen (cmd : Text)
  | system (cmd : Text)
  | unlink (path : Text)
  | chmod (path : Text)
  | rename (oldPath newPath : Text)
  | execv (path : Text)
  deriving DecidableEq

/-- The output of a command that succeeded, and whether a call did; `execv` returns when it did
not. -/
@[reducible] def Res : Op → Type
  | .popen _ => Option Text
  | .system _ => Bool
  | .rename _ _ => Bool
  | _ => Unit

abbrev Program := Prog Op Res

structure Latest where
  filename : Option Text
  downloadPath : Option Text
  sha256 : Option Text

/-- `json_loads` gives whether `update_available` is true and the block `latest`. -/
structure Platform where
  defaultArch : Text
  realpath : Text → Option Text
  loads : Text → Option (Bool × Option Latest)

section Arguments

def findArgValue (flag : Text) (argv : List Text) : Option Text :=
  let args := argv.drop 1
  ((args.zip (args.drop 1)).find? fun pair => pair.1 == flag).map (·.2)

def hasFlag (flag : Text) (argv : List Text) : Bool := (argv.drop 1).contains flag

/-- `value && value[0]` -/
def nonempty (value : Option Text) : Option Text := value.filter (!·.isEmpty)

def buildApiBase (print : List Text → Text) (argv : List Text) : Text :=
  match nonempty (findArgValue (bytes "--update-server") argv) with
  | some server => print [server]
  | none =>
    match nonempty (findArgValue (bytes "--registration-server") argv) with
    | some server => print [bytes "http://", server]
    | none => []

def trimTrailingSlash (value : Text) : Text := (value.reverse.dropWhile (· == 47)).reverse

def resolveArch (pf : Platform) (argv : List Text) : Text :=
  (nonempty (findArgValue (bytes "--update-arch") argv)).getD pf.defaultArch

def directory (path : Text) : Option Text :=
  if path.contains 47 then some ((path.reverse.dropWhile (· != 47)).drop 1).reverse else none

/-- Printed to a buffer of `PATH_MAX` bytes. -/
def installDir (print : List Text → Text) (pf : Platform) (argv : List Text) : Text :=
  match findArgValue (bytes "--install-dir") argv with
  | some dir => print [dir]
  | none =>
    match (argv.head?.bind pf.realpath).bind directory with
    | some dir => print [dir]
    | none => bytes "."

end Arguments

section Commands

/-- The output up to the first null byte, in a buffer of this size. -/
def runCommandCapture (cmd : Text) (outputSize : ℕ) : Program (Option Text) := do
  match ← perform (Op.popen cmd) with
  | some (some output) => pure (some ((output.take (outputSize - 1)).takeWhile (· != 0)))
  | _ => pure none

def succeeds (cmd : Text) : Program Bool := do
  match ← perform (Op.system cmd) with
  | some true => pure true
  | _ => pure false

def fetchJson (url : Text) (bufferSize : ℕ) : Program (Option Text) :=
  runCommandCapture (snprintf 2048 [bytes "curl -sf --max-time 30 '", url, bytes "'"]) bufferSize

def downloadFile (url targetPath : Text) : Program Bool :=
  succeeds (snprintf 4096
    [bytes "curl -sf --max-time 120 '", url, bytes "' -o '", targetPath, bytes "'"])

def verifySha256 (filePath : Text) (expectedSha256 : Option Text) : Program Bool :=
  match nonempty expectedSha256 with
  | none => pure true
  | some expected => do
    match ← runCommandCapture
      (snprintf (PATH_MAX + 64) [bytes "sha256sum '", filePath, bytes "'"]) 128 with
    | none => pure false
    | some output => pure (output.take 64 == expected.take 64)

def installSymlink (installDir filename : Text) : Program Bool :=
  succeeds (snprintf (PATH_MAX + 256)
    [bytes "ln -sf '", filename, bytes "' '", installDir, bytes "/module_net_port_client'"])

end Commands

def replaceClient (dir targetPath tempPath downloadUrl filename : Text) (sha256 : Option Text) :
    Program ℤ := do
  if ← downloadFile downloadUrl tempPath then
    if ← verifySha256 tempPath sha256 then
      let _ ← perform (Op.chmod tempPath)
      match ← perform (Op.rename tempPath targetPath) with
      | some true =>
        if ← installSymlink dir filename then
          let _ ← perform (Op.execv (snprintf PATH_MAX [dir, bytes "/module_net_port_client"]))
          pure 1
        else pure (-1)
      | _ =>
        let _ ← perform (Op.unlink tempPath)
        pure (-1)
    else
      let _ ← perform (Op.unlink tempPath)
      pure (-1)
  else pure (-1)

def install (pf : Platform) (argv : List Text) (apiBase : Text) (filename downloadPath : Text)
    (sha256 : Option Text) : Program ℤ :=
  let dir := installDir (snprintf PATH_MAX) pf argv
  let targetPath := snprintf PATH_MAX [dir, bytes "/", filename]
  let tempPath := snprintf (PATH_MAX + 16) [targetPath, bytes ".download"]
  let downloadUrl := snprintf 1024 [apiBase, downloadPath]
  replaceClient dir targetPath tempPath downloadUrl filename sha256

def clientCheckAndUpdate (pf : Platform) (argv : List Text) (autoApply : Bool) : Program ℤ :=
  if !hasFlag (bytes "--check-update") argv && !autoApply then pure 0
  else
    let apiBase := buildApiBase (snprintf 512) argv
    if apiBase.isEmpty then pure (-1)
    else do
      let apiBase := trimTrailingSlash apiBase
      let url := snprintf 1024 [apiBase, bytes "/api/v1/clients/latest/check?platform=linux&arch=",
        resolveArch pf argv, bytes "&current=", VERSION]
      match (← fetchJson url 8192).bind pf.loads with
      | none => pure (-1)
      | some (false, _) => pure 0
      | some (true, none) => pure (-1)
      | some (true, some latest) =>
        if !autoApply then pure 2
        else
          match latest.filename, latest.downloadPath with
          | some filename, some downloadPath =>
            install pf argv apiBase filename downloadPath latest.sha256
          | _, _ => pure (-1)

section Machine

structure World where
  files : Text → Option (List UInt8)
  installed : List (Text × Text)

/-- The computer besides the client: the directories and the links to them, the shell, which tells
whether a command succeeded and what it printed, the renamings that the system accepts, and the
function that `sha256sum` computes. -/
structure Machine extends Platform where
  directories : Text → Bool
  sh : Text → (Text → Option (List UInt8)) → (Bool × Text) × (Text → Option (List UInt8))
  renames : Text → Text → (Text → Option (List UInt8)) → Bool
  sha256 : List UInt8 → Text

def after (m : Machine) (w : World) : Op → World
  | .popen cmd | .system cmd => { w with files := (m.sh cmd w.files).2 }
  | .unlink path => { w with files := Function.update w.files path none }
  | .rename a b =>
    if m.renames a b w.files then
      { files := Function.update (Function.update w.files b (w.files a)) a none
        installed := w.installed ++ [(a, b)] }
    else w
  | .chmod _ | .execv _ => w

def answer (m : Machine) (w : World) : (c : Op) → Res c
  | .popen cmd =>
    let r := (m.sh cmd w.files).1
    if r.1 then some r.2 else none
  | .system cmd => (m.sh cmd w.files).1.1
  | .rename a b => m.renames a b w.files
  | .unlink _ | .chmod _ | .execv _ => ()

def interp (m : Machine) (c : Op) (w : World) : Option (World × Res c) :=
  some (after m w c, answer m w c)

/-- The letters, the digits and `-`, `.`, `/` and `_` are plain for the shell. -/
def plainByte (n : ℕ) : Bool :=
  (97 ≤ n && n ≤ 122) || (45 ≤ n && n ≤ 57) || (65 ≤ n && n ≤ 90) || n == 95

/-- The shell of POSIX; more characters count as special here than it takes for special. -/
def posix : Alphabet UInt8 where
  quote := 39
  blank c := c == 32 || c == 9
  special c := !plainByte c.toNat

/-- `sha256sum` prints names with these characters in another way. -/
def printable (path : Text) : Bool := path.all fun c => c != 92 && c != 10 && c != 13

def operand (word : Text) : Bool := word.head? != some 45

/-- A URL without the brackets and braces of `curl`. -/
def literal (url : Text) : Bool := url.all fun c => c != 91 && c != 93 && c != 123 && c != 125

/-- The documented behaviour of `sha256sum`. -/
structure Documented (m : Machine) : Prop where
  length (content : List UInt8) : (m.sha256 content).length = 64
  notNull (content : List UInt8) : (0 : UInt8) ∉ m.sha256 content
  sha256sum (cmd path : Text) (files : Text → Option (List UInt8))
    (command : words posix cmd = some [bytes "sha256sum", path])
    (name : operand path = true ∧ printable path = true) :
    m.sh cmd files = match files path with
      | some content => ((true, m.sha256 content ++ bytes "  " ++ path ++ [10]), files)
      | none => ((false, []), files)

end Machine

section Intended

def whole (parts : List Text) : Text := parts.flatten

variable (m : Machine) (argv : List Text)

def apiBase : Text := trimTrailingSlash (buildApiBase whole argv)

def checkUrl : Text :=
  apiBase argv ++ bytes "/api/v1/clients/latest/check?platform=linux&arch=" ++
    resolveArch m.toPlatform argv ++ bytes "&current=" ++ VERSION

def directoryOf : Text := installDir whole m.toPlatform argv

def targetPath (filename : Text) : Text := directoryOf m argv ++ bytes "/" ++ filename

def tempPath (filename : Text) : Text := targetPath m argv filename ++ bytes ".download"

def symlinkPath : Text := directoryOf m argv ++ bytes "/module_net_port_client"

structure Offer where
  filename : Text
  downloadPath : Text
  sha256 : Option Text
  deriving DecidableEq

def reply (w : World) : Option (Bool × Option Latest) :=
  let url := snprintf 1024 [trimTrailingSlash (buildApiBase (snprintf 512) argv),
    bytes "/api/v1/clients/latest/check?platform=linux&arch=", resolveArch m.toPlatform argv,
    bytes "&current=", VERSION]
  let cmd := snprintf 2048 [bytes "curl -sf --max-time 30 '", url, bytes "'"]
  ((answer m w (.popen cmd)).map fun output => (output.take 8191).takeWhile (· != 0)).bind m.loads

def offered (w : World) : Option Offer :=
  match reply m argv w with
  | some (true, some latest) =>
    match latest.filename, latest.downloadPath with
    | some filename, some downloadPath => some ⟨filename, downloadPath, latest.sha256⟩
    | _, _ => none
  | _ => none

/-- A component of a path that is neither empty nor a dot or two. -/
def IsName (name : Text) : Prop := name ∉ [[], bytes ".", bytes ".."] ∧ (47 : UInt8) ∉ name

instance (name : Text) : Decidable (IsName name) := by
  dsimp only [IsName]
  infer_instance

def Inside (dir path : Text) : Prop :=
  (dir ++ bytes "/").isPrefixOf path = true ∧ IsName (path.drop (dir ++ bytes "/").length)

instance (dir path : Text) : Decidable (Inside dir path) := by
  dsimp only [Inside]
  infer_instance

def checkCommand : List Text :=
  [bytes "curl", bytes "-sf", bytes "--max-time", bytes "30", checkUrl m argv]

def downloadCommand (o : Offer) : List Text :=
  [bytes "curl", bytes "-sf", bytes "--max-time", bytes "120", apiBase argv ++ o.downloadPath,
    bytes "-o", tempPath m argv o.filename]

def digestCommand (o : Offer) : List Text := [bytes "sha256sum", tempPath m argv o.filename]

def symlinkCommand (o : Offer) : List Text :=
  [bytes "ln", bytes "-sf", o.filename, symlinkPath m argv]

/-- The paths that the command of these words writes, where its documentation takes them for the
operands that are meant: `curl` replaces `#1` by what a pattern of the URL stands for, and `ln` makes
the link inside a directory. -/
def writes (command : List Text) : Option (List Text) :=
  match command with
  | [program, path] => if program = bytes "sha256sum" ∧ operand path = true then some [] else none
  | [program, _, target, link] =>
    if program = bytes "ln" ∧ operand target = true ∧ operand link = true then
      some [if m.directories link then link ++ bytes "/" ++ target else link]
    else none
  | [program, _, _, _, url] =>
    if program = bytes "curl" ∧ operand url = true then some [] else none
  | [program, _, _, _, url, _, path] =>
    if program = bytes "curl" ∧ operand url = true ∧ (literal url = true ∨ (35 : UInt8) ∉ path) then
      some [path]
    else none
  | _ => none

/-- The shell runs the command, which writes directly into the directory only. -/
def Runs (cmd : Text) (command : List Text) : Prop :=
  words posix cmd = some command ∧
    ∃ paths ∈ writes m command, ∀ path ∈ paths, Inside (directoryOf m argv) path

instance (cmd : Text) (command : List Text) : Decidable (Runs m argv cmd command) := by
  dsimp only [Runs]
  infer_instance

variable (ok : Option Text → Text → Prop)

/-- What the client may do for an offer; `ok` compares the digest of the response with that of the
file. -/
def Intended (offer : Option Offer) : Op → World → Prop
  | .popen cmd, _ => Runs m argv cmd (checkCommand m argv) ∨
      ∃ o ∈ offer, Runs m argv cmd (digestCommand m argv o)
  | .system cmd, _ => ∃ o ∈ offer, Runs m argv cmd (downloadCommand m argv o) ∨
      Runs m argv cmd (symlinkCommand m argv o)
  | .unlink path, _ | .chmod path, _ => ∃ o ∈ offer, path = tempPath m argv o.filename
  | .rename a b, w => ∃ o ∈ offer, a = tempPath m argv o.filename ∧
      b = targetPath m argv o.filename ∧ Inside (directoryOf m argv) b ∧
        ∀ content ∈ w.files a, ok o.sha256 (m.sha256 content)
  | .execv path, w => ∃ o ∈ offer, path = symlinkPath m argv ∧
      (tempPath m argv o.filename, targetPath m argv o.filename) ∈ w.installed

instance [∀ digest sum, Decidable (ok digest sum)] (offer : Option Offer) (c : Op) (w : World) :
    Decidable (Intended m argv ok offer c w) := by
  rcases c with cmd | cmd | path | path | ⟨a, b⟩ | path <;> dsimp only [Intended] <;> infer_instance

def Inert (autoApply : Bool) (w : World) : Prop :=
  Permitted (interp m) (Intended m argv ok (offered m argv w))
    (clientCheckAndUpdate m.toPlatform argv autoApply) w

instance [∀ digest sum, Decidable (ok digest sum)] (autoApply : Bool) (w : World) :
    Decidable (Inert m argv ok autoApply w) :=
  inferInstanceAs (Decidable (Permitted _ _ _ _))

/-- The digest of the response is there and is that of the file. -/
def Verified (digest : Option Text) (sum : Text) : Prop := digest = some sum

instance (digest : Option Text) (sum : Text) : Decidable (Verified digest sum) :=
  inferInstanceAs (Decidable (_ = _))

/-- A response without a digest is accepted; of a digest 64 characters are compared. -/
def Accepted (digest : Option Text) (sum : Text) : Prop :=
  ∀ expected ∈ nonempty digest, sum = expected.take 64

end Intended

section Domain

variable (m : Machine) (argv : List Text)

/-- The command line has no quotes and fits into the buffers; the URL and the directory are no
options, and the link is not a directory. -/
structure PlainArguments : Prop where
  base : (39 : UInt8) ∉ buildApiBase whole argv ∧ (buildApiBase whole argv).length < 512
  arch : (39 : UInt8) ∉ resolveArch m.toPlatform argv
  url : operand (checkUrl m argv) = true ∧ (checkUrl m argv).length < 1024
  dir : (39 : UInt8) ∉ directoryOf m argv ∧ operand (directoryOf m argv) = true
  symlink : (symlinkPath m argv).length < PATH_MAX
  link : m.directories (symlinkPath m argv) = false

/-- The file name is one component of a path, no option, without quotes or characters that
`sha256sum` would print in another way; the URL is no option, and without patterns where the path
refers to one; and everything fits into the buffers. -/
structure PlainOffer (o : Offer) : Prop where
  filename : (39 : UInt8) ∉ o.filename ∧ IsName o.filename ∧ operand o.filename = true
  downloadPath : (39 : UInt8) ∉ o.downloadPath
  name : printable (tempPath m argv o.filename) = true
  target : (targetPath m argv o.filename).length < PATH_MAX
  url : operand (apiBase argv ++ o.downloadPath) = true ∧
    (apiBase argv ++ o.downloadPath).length < 1024
  pattern : literal (apiBase argv ++ o.downloadPath) = true ∨
    (35 : UInt8) ∉ tempPath m argv o.filename
  command : (apiBase argv ++ o.downloadPath).length + (tempPath m argv o.filename).length < 4064

end Domain

variable {m : Machine} {argv : List Text} {w : World} {o : Offer} {size : ℕ} {parts : List Text}
  {permit : Op → World → Prop} {α : Type} {dir name path cmd : Text}

section Formats

theorem snprintf_whole (h : (whole parts).length < size) : snprintf size parts = whole parts :=
  List.take_of_length_le (by unfold whole at h; omega)

theorem buildApiBase_whole (h : (buildApiBase whole argv).length < 512) :
    buildApiBase (snprintf 512) argv = buildApiBase whole argv := by
  unfold buildApiBase at h ⊢
  split
  · rename_i found
    rw [found] at h
    exact snprintf_whole h
  · rename_i found
    rw [found] at h
    split
    · rename_i found
      rw [found] at h
      exact snprintf_whole h
    · rfl

theorem installDir_whole {pf : Platform} (h : (installDir whole pf argv).length < PATH_MAX) :
    installDir (snprintf PATH_MAX) pf argv = installDir whole pf argv := by
  unfold installDir at h ⊢
  split
  · rename_i found
    rw [found] at h
    exact snprintf_whole h
  · rename_i found
    rw [found] at h
    split
    · rename_i found
      rw [found] at h
      exact snprintf_whole h
    · rfl

theorem not_mem_trim {c : UInt8} {value : Text} (h : c ∉ value) : c ∉ trimTrailingSlash value := by
  intro mem
  have inside := (List.dropWhile_sublist _).subset (List.mem_reverse.1 mem)
  exact h (List.mem_reverse.1 inside)

theorem inside_of_name (h : IsName name) : Inside dir (dir ++ bytes "/" ++ name) := by
  refine ⟨by simp, ?_⟩
  rw [List.drop_left]
  exact h

end Formats

section Quotes

theorem operand_inside (h : operand dir = true) (rest : Text) :
    operand (dir ++ (bytes "/" ++ rest)) = true := by
  cases dir with
  | nil => rfl
  | cons c dir => exact h

theorem words_of_pieces {pieces : List (Piece UInt8)} (legal : ∀ p ∈ pieces, p.Legal posix) :
    words posix (render posix 32 pieces) = some (pieces.map Piece.word) :=
  words_render rfl (by decide) legal

theorem words_fetch {url : Text} (plain : (39 : UInt8) ∉ url) :
    words posix (whole [bytes "curl -sf --max-time 30 '", url, bytes "'"]) =
      some [bytes "curl", bytes "-sf", bytes "--max-time", bytes "30", url] := by
  have text : whole [bytes "curl -sf --max-time 30 '", url, bytes "'"] =
      render posix 32 [.plain (bytes "curl"), .plain (bytes "-sf"), .plain (bytes "--max-time"),
        .plain (bytes "30"), .quoted url] := rfl
  rw [text, words_of_pieces]
  · rfl
  · simp only [List.forall_mem_cons]
    exact ⟨by decide, by decide, by decide, by decide, plain, by simp⟩

theorem words_download {url path : Text} (plain : (39 : UInt8) ∉ url)
    (plain' : (39 : UInt8) ∉ path) :
    words posix (whole [bytes "curl -sf --max-time 120 '", url, bytes "' -o '", path, bytes "'"]) =
      some [bytes "curl", bytes "-sf", bytes "--max-time", bytes "120", url, bytes "-o", path] := by
  have text : whole [bytes "curl -sf --max-time 120 '", url, bytes "' -o '", path, bytes "'"] =
      render posix 32 [.plain (bytes "curl"), .plain (bytes "-sf"), .plain (bytes "--max-time"),
        .plain (bytes "120"), .quoted url, .plain (bytes "-o"), .quoted path] := by
    simp [whole, render, Piece.text, posix, bytes]
  rw [text, words_of_pieces]
  · rfl
  · simp only [List.forall_mem_cons]
    exact ⟨by decide, by decide, by decide, by decide, plain, by decide, plain', by simp⟩

theorem words_digest (plain : (39 : UInt8) ∉ path) :
    words posix (whole [bytes "sha256sum '", path, bytes "'"]) =
      some [bytes "sha256sum", path] := by
  have text : whole [bytes "sha256sum '", path, bytes "'"] =
      render posix 32 [.plain (bytes "sha256sum"), .quoted path] := rfl
  rw [text, words_of_pieces]
  · rfl
  · simp only [List.forall_mem_cons]
    exact ⟨by decide, plain, by simp⟩

theorem words_symlink {filename : Text} (plain : (39 : UInt8) ∉ filename)
    (plain' : (39 : UInt8) ∉ dir) :
    words posix (whole [bytes "ln -sf '", filename, bytes "' '", dir,
        bytes "/module_net_port_client'"]) =
      some [bytes "ln", bytes "-sf", filename, dir ++ bytes "/module_net_port_client"] := by
  have text : whole [bytes "ln -sf '", filename, bytes "' '", dir,
        bytes "/module_net_port_client'"] =
      render posix 32 [.plain (bytes "ln"), .plain (bytes "-sf"), .quoted filename,
        .quoted (dir ++ bytes "/module_net_port_client")] := by
    simp [whole, render, Piece.text, posix, bytes]
  have last : (39 : UInt8) ∉ dir ++ bytes "/module_net_port_client" := by
    rw [List.mem_append, not_or]
    exact ⟨plain', by decide⟩
  rw [text, words_of_pieces]
  · rfl
  · simp only [List.forall_mem_cons]
    exact ⟨by decide, by decide, plain, last, by simp⟩

end Quotes

section Runs

theorem permitted_call {c : Op} {k : Option (Res c) → Program α} :
    Permitted (interp m) permit (.call c k) w ↔
      permit c w ∧ Permitted (interp m) permit (k (some (answer m w c))) (after m w c) := by
  rw [Permitted]
  rfl

theorem permitted_ret {a : α} : Permitted (interp m) permit (.ret a : Program α) w := by
  rw [Permitted]
  trivial

theorem permitted_capture {k : Option Text → Program α} :
    Permitted (interp m) permit (runCommandCapture cmd size >>= k) w ↔
      permit (.popen cmd) w ∧
        Permitted (interp m) permit (k ((answer m w (.popen cmd)).map fun output =>
          (output.take (size - 1)).takeWhile (· != 0))) (after m w (.popen cmd)) := by
  simp only [runCommandCapture, perform_bind, Prog.call_bind]
  rw [permitted_call]
  cases answer m w (.popen cmd) <;> rfl

theorem permitted_succeeds {k : Bool → Program α} :
    Permitted (interp m) permit (succeeds cmd >>= k) w ↔
      permit (.system cmd) w ∧
        Permitted (interp m) permit (k (answer m w (.system cmd))) (after m w (.system cmd)) := by
  simp only [succeeds, perform_bind, Prog.call_bind]
  rw [permitted_call]
  cases answer m w (.system cmd) <;> rfl

theorem sum_of_output {sum rest : Text} (length : sum.length = 64) (notNull : (0 : UInt8) ∉ sum) :
    (((sum ++ rest).take 127).takeWhile (· != 0)).take 64 = sum := by
  have shown : ∀ c ∈ sum, (c != 0) = true := by
    intro c hc
    have other : c ≠ 0 := fun same => notNull (same ▸ hc)
    simpa using other
  have cut : (sum ++ rest).take 127 = sum ++ rest.take 63 := by
    rw [List.take_append, List.take_of_length_le (by omega), length]
  rw [cut, List.takeWhile_append_of_pos shown, List.take_left' length]

/-- A file passes when there is no digest to compare, or its own begins like the one expected. -/
theorem permitted_verify {k : Bool → Program α} {expected : Option Text} (documented : Documented m)
    (name : operand path = true ∧ printable path = true)
    (command : words posix (snprintf (PATH_MAX + 64) [bytes "sha256sum '", path, bytes "'"]) =
      some [bytes "sha256sum", path])
    (allowed : permit (.popen (snprintf (PATH_MAX + 64) [bytes "sha256sum '", path, bytes "'"])) w)
    (passed : ∀ w', (∀ content ∈ w'.files path, Accepted expected (m.sha256 content)) →
      Permitted (interp m) permit (k true) w')
    (failed : ∀ w', Permitted (interp m) permit (k false) w') :
    Permitted (interp m) permit (verifySha256 path expected >>= k) w := by
  unfold verifySha256
  cases given : nonempty expected with
  | none =>
    refine passed w ?_
    intro content _ sum compared
    rw [given] at compared
    cases compared
  | some sum =>
    have printed := documented.sha256sum _ path w.files command name
    simp only [runCommandCapture, perform_bind, Prog.call_bind]
    rw [permitted_call]
    refine ⟨allowed, ?_⟩
    cases file : w.files path with
    | none =>
      rw [file] at printed
      simp only [answer, printed]
      exact failed _
    | some content =>
      rw [file] at printed
      simp only [answer, after, printed]
      have begins : (((m.sha256 content ++ bytes "  " ++ path ++ [10]).take (128 - 1)).takeWhile
          (· != 0)).take 64 = m.sha256 content := by
        rw [List.append_assoc, List.append_assoc]
        exact sum_of_output (documented.length content) (documented.notNull content)
      simp only [if_true, Prog.pure_eq, Prog.ret_bind, begins]
      cases same : m.sha256 content == sum.take 64 with
      | false => exact failed _
      | true =>
        refine passed _ ?_
        intro content' found sum' compared
        change w.files path = some content' at found
        rw [file] at found
        cases found
        rw [given] at compared
        cases compared
        exact beq_iff_eq.1 same

end Runs

section Plain

theorem PlainArguments.apiBase (plain : PlainArguments m argv) : (39 : UInt8) ∉ apiBase argv :=
  not_mem_trim plain.base.1

theorem PlainArguments.printed (plain : PlainArguments m argv) :
    trimTrailingSlash (buildApiBase (snprintf 512) argv) = ClientUpdate.apiBase argv := by
  rw [buildApiBase_whole plain.base.2]
  rfl

theorem PlainArguments.checkUrl (plain : PlainArguments m argv) :
    (39 : UInt8) ∉ checkUrl m argv := by
  have path : (39 : UInt8) ∉ bytes "/api/v1/clients/latest/check?platform=linux&arch=" := by decide
  have current : (39 : UInt8) ∉ bytes "&current=" := by decide
  have version : (39 : UInt8) ∉ VERSION := by decide
  simp only [ClientUpdate.checkUrl, List.mem_append, not_or]
  exact ⟨⟨⟨⟨plain.apiBase, path⟩, plain.arch⟩, current⟩, version⟩

theorem PlainArguments.directory (plain : PlainArguments m argv) :
    installDir (snprintf PATH_MAX) m.toPlatform argv = directoryOf m argv := by
  have shorter := plain.symlink
  rw [symlinkPath, List.length_append] at shorter
  exact installDir_whole (by unfold directoryOf at shorter; omega)

theorem PlainArguments.fetchUrl (plain : PlainArguments m argv) :
    snprintf 1024 [trimTrailingSlash (buildApiBase (snprintf 512) argv),
      bytes "/api/v1/clients/latest/check?platform=linux&arch=", resolveArch m.toPlatform argv,
      bytes "&current=", VERSION] = ClientUpdate.checkUrl m argv := by
  have parts : whole [ClientUpdate.apiBase argv,
      bytes "/api/v1/clients/latest/check?platform=linux&arch=", resolveArch m.toPlatform argv,
      bytes "&current=", VERSION] = ClientUpdate.checkUrl m argv := by
    simp [whole, ClientUpdate.checkUrl]
  rw [plain.printed, snprintf_whole (by rw [parts]; exact plain.url.2), parts]

theorem PlainArguments.fetch (plain : PlainArguments m argv) :
    Runs m argv (snprintf 2048 [bytes "curl -sf --max-time 30 '", ClientUpdate.checkUrl m argv,
      bytes "'"]) (checkCommand m argv) := by
  refine ⟨?_, [], if_pos ⟨rfl, plain.url.1⟩, by simp⟩
  have url := plain.url.2
  have length : (bytes "curl -sf --max-time 30 '").length = 24 := by decide
  have quote : (bytes "'").length = 1 := by decide
  rw [snprintf_whole]
  · exact words_fetch plain.checkUrl
  · simp only [whole, List.flatten_cons, List.flatten_nil, List.length_append, List.length_nil]
    omega

variable (args : PlainArguments m argv) (plain : PlainOffer m argv o)
include args plain

theorem tempPath_plain : (39 : UInt8) ∉ tempPath m argv o.filename := by
  have slash : (39 : UInt8) ∉ bytes "/" := by decide
  have suffix : (39 : UInt8) ∉ bytes ".download" := by decide
  simp only [tempPath, targetPath, List.mem_append, not_or]
  exact ⟨⟨⟨args.dir.1, slash⟩, plain.filename.1⟩, suffix⟩

omit args in
theorem target_printed : snprintf PATH_MAX [directoryOf m argv, bytes "/", o.filename] =
    targetPath m argv o.filename := by
  have parts : whole [directoryOf m argv, bytes "/", o.filename] =
      targetPath m argv o.filename := by
    simp [whole, targetPath]
  rw [snprintf_whole (by rw [parts]; exact plain.target), parts]

omit args in
theorem temp_printed : snprintf (PATH_MAX + 16) [targetPath m argv o.filename,
    bytes ".download"] = tempPath m argv o.filename := by
  have target := plain.target
  have suffix : (bytes ".download").length = 9 := by decide
  have parts : whole [targetPath m argv o.filename, bytes ".download"] =
      tempPath m argv o.filename := by
    simp [whole, tempPath]
  rw [snprintf_whole, parts]
  rw [parts, tempPath, List.length_append]
  omega

omit args in
theorem inside_target : Inside (directoryOf m argv) (targetPath m argv o.filename) :=
  inside_of_name plain.filename.2.1

omit args in
theorem inside_temp : Inside (directoryOf m argv) (tempPath m argv o.filename) := by
  have name : IsName (o.filename ++ bytes ".download") := by
    obtain ⟨_, slash⟩ := plain.filename.2.1
    have longer : 3 ≤ (o.filename ++ bytes ".download").length := by
      rw [List.length_append]
      exact Nat.le_add_left_of_le (by decide)
    refine ⟨?_, ?_⟩
    · intro mem
      have short : ∀ name ∈ [[], bytes ".", bytes ".."], name.length < 3 := by decide
      exact absurd (short _ mem) (by omega)
    · rw [List.mem_append, not_or]
      exact ⟨slash, by decide⟩
  have path : tempPath m argv o.filename =
      directoryOf m argv ++ bytes "/" ++ (o.filename ++ bytes ".download") := by
    simp [tempPath, targetPath]
  rw [path]
  exact inside_of_name name

omit args plain in
theorem inside_symlink : Inside (directoryOf m argv) (symlinkPath m argv) := by
  have path : symlinkPath m argv =
      directoryOf m argv ++ bytes "/" ++ bytes "module_net_port_client" := by
    rw [symlinkPath, List.append_assoc]
    rfl
  rw [path]
  exact inside_of_name (by decide)

omit plain in
theorem operand_temp : operand (tempPath m argv o.filename) = true := by
  rw [tempPath, targetPath, List.append_assoc, List.append_assoc]
  exact operand_inside args.dir.2 _

theorem downloadUrl_printed : snprintf 1024 [trimTrailingSlash (buildApiBase (snprintf 512) argv),
    o.downloadPath] = apiBase argv ++ o.downloadPath := by
  have parts : whole [apiBase argv, o.downloadPath] = apiBase argv ++ o.downloadPath := by
    simp [whole]
  rw [args.printed, snprintf_whole (by rw [parts]; exact plain.url.2), parts]

theorem download_runs : Runs m argv (snprintf 4096 [bytes "curl -sf --max-time 120 '",
    apiBase argv ++ o.downloadPath, bytes "' -o '", tempPath m argv o.filename, bytes "'"])
      (downloadCommand m argv o) := by
  refine ⟨?_, [tempPath m argv o.filename], if_pos ⟨rfl, plain.url.1, plain.pattern⟩, ?_⟩
  rotate_left
  · rintro path (_ | ⟨_, _ | _⟩)
    exact inside_temp plain
  have fits := plain.command
  have start : (bytes "curl -sf --max-time 120 '").length = 25 := by decide
  have middle : (bytes "' -o '").length = 6 := by decide
  have quote : (bytes "'").length = 1 := by decide
  have url : (39 : UInt8) ∉ apiBase argv ++ o.downloadPath := by
    rw [List.mem_append, not_or]
    exact ⟨args.apiBase, plain.downloadPath⟩
  rw [snprintf_whole]
  · exact words_download url (tempPath_plain args plain)
  · simp only [whole, List.flatten_cons, List.flatten_nil, List.length_append, List.length_nil]
      at fits ⊢
    omega

theorem digest_runs : Runs m argv (snprintf (PATH_MAX + 64) [bytes "sha256sum '",
    tempPath m argv o.filename, bytes "'"]) (digestCommand m argv o) := by
  refine ⟨?_, [], if_pos ⟨rfl, operand_temp args⟩, by simp⟩
  have target := plain.target
  have start : (bytes "sha256sum '").length = 11 := by decide
  have suffix : (bytes ".download").length = 9 := by decide
  have quote : (bytes "'").length = 1 := by decide
  rw [snprintf_whole]
  · exact words_digest (tempPath_plain args plain)
  · simp only [whole, tempPath, List.flatten_cons, List.flatten_nil, List.length_append,
      List.length_nil]
    omega

theorem symlink_runs : Runs m argv (snprintf (PATH_MAX + 256) [bytes "ln -sf '", o.filename,
    bytes "' '", directoryOf m argv, bytes "/module_net_port_client'"])
      (symlinkCommand m argv o) := by
  refine ⟨?_, [symlinkPath m argv], ?_, ?_⟩
  rotate_left
  · rw [symlinkCommand, writes, if_pos ⟨rfl, plain.filename.2.2, operand_inside args.dir.2 _⟩,
      args.link]
    rfl
  · rintro path (_ | ⟨_, _ | _⟩)
    exact inside_symlink
  have target := plain.target
  have start : (bytes "ln -sf '").length = 8 := by decide
  have middle : (bytes "' '").length = 3 := by decide
  have slash : (bytes "/").length = 1 := by decide
  have last : (bytes "/module_net_port_client'").length = 24 := by decide
  rw [snprintf_whole]
  · exact words_symlink plain.filename.1 args.dir.1
  · simp only [whole, targetPath, List.flatten_cons, List.flatten_nil, List.length_append,
      List.length_nil] at target ⊢
    omega

omit plain in
theorem launcher_printed : snprintf PATH_MAX [directoryOf m argv,
    bytes "/module_net_port_client"] = symlinkPath m argv := by
  have parts : whole [directoryOf m argv, bytes "/module_net_port_client"] =
      symlinkPath m argv := by
    simp [whole, symlinkPath]
  rw [snprintf_whole (by rw [parts]; exact args.symlink), parts]

theorem install_eq : install m.toPlatform argv
    (trimTrailingSlash (buildApiBase (snprintf 512) argv)) o.filename o.downloadPath o.sha256 =
      replaceClient (directoryOf m argv) (targetPath m argv o.filename)
        (tempPath m argv o.filename) (apiBase argv ++ o.downloadPath) o.filename o.sha256 := by
  unfold install
  dsimp only
  rw [args.directory, target_printed plain, temp_printed plain, downloadUrl_printed args plain]

theorem replaceClient_permitted (documented : Documented m) :
    Permitted (interp m) (Intended m argv Accepted (some o))
      (replaceClient (directoryOf m argv) (targetPath m argv o.filename)
        (tempPath m argv o.filename) (apiBase argv ++ o.downloadPath) o.filename o.sha256) w := by
  have temp : ∃ o' ∈ some o, tempPath m argv o.filename = tempPath m argv o'.filename :=
    ⟨o, rfl, rfl⟩
  unfold replaceClient downloadFile
  rw [permitted_succeeds]
  refine ⟨⟨o, rfl, .inl (download_runs args plain)⟩, ?_⟩
  cases answer m w _ with
  | false => exact permitted_ret
  | true =>
    have digest := digest_runs args plain
    refine permitted_verify documented ⟨operand_temp args, plain.name⟩ digest.1
      (.inr ⟨o, rfl, digest⟩) ?_ ?_
    · intro w' verified
      simp only [if_true, perform_bind]
      rw [permitted_call]
      refine ⟨temp, ?_⟩
      rw [permitted_call]
      refine ⟨⟨o, rfl, rfl, rfl, inside_target plain, verified⟩, ?_⟩
      cases renamed : m.renames (tempPath m argv o.filename) (targetPath m argv o.filename)
        w'.files with
      | false =>
        simp only [after, answer, renamed]
        rw [permitted_call]
        exact ⟨temp, permitted_ret⟩
      | true =>
        simp only [after, answer, renamed]
        unfold installSymlink
        rw [permitted_succeeds]
        refine ⟨⟨o, rfl, .inr (symlink_runs args plain)⟩, ?_⟩
        cases answer m _ _ with
        | false => exact permitted_ret
        | true =>
          simp only [if_true]
          rw [permitted_call, launcher_printed args]
          exact ⟨⟨o, rfl, rfl, by simp [after]⟩, permitted_ret⟩
    · intro w'
      simp only [Bool.false_eq_true, if_false, perform_bind]
      rw [permitted_call]
      exact ⟨temp, permitted_ret⟩

end Plain

theorem offered_eq {latest : Latest} {filename downloadPath : Text}
    (said : reply m argv w = some (true, some latest)) (file : latest.filename = some filename)
    (path : latest.downloadPath = some downloadPath) :
    offered m argv w = some ⟨filename, downloadPath, latest.sha256⟩ := by
  unfold offered
  rw [said]
  dsimp only
  rw [file, path]

theorem PlainArguments.reply_eq (args : PlainArguments m argv) :
    (((answer m w (.popen (snprintf 2048 [bytes "curl -sf --max-time 30 '",
      ClientUpdate.checkUrl m argv, bytes "'"]))).map fun output =>
        (output.take (8192 - 1)).takeWhile (· != 0)).bind m.loads) = reply m argv w := by
  unfold reply
  dsimp only
  rw [args.fetchUrl]

/-- With a plain command line and a plain offer the shell runs what is meant, the files stay in the
directory, and a file whose digest is not the one given is neither installed nor executed. -/
theorem update_inert (documented : Documented m) (args : PlainArguments m argv)
    (plain : ∀ o ∈ offered m argv w, PlainOffer m argv o) (autoApply : Bool) :
    Inert m argv Accepted autoApply w := by
  unfold Inert clientCheckAndUpdate
  split
  · exact permitted_ret
  · dsimp only
    split
    · exact permitted_ret
    · rw [args.fetchUrl]
      unfold fetchJson
      rw [permitted_capture]
      refine ⟨.inl args.fetch, ?_⟩
      rw [args.reply_eq]
      rcases said : reply m argv w with _ | ⟨_ | _, latest⟩
      · exact permitted_ret
      · exact permitted_ret
      · cases latest with
        | none => exact permitted_ret
        | some latest =>
          dsimp only
          split
          · exact permitted_ret
          · split
            · rename_i filename downloadPath file path
              have offer := offered_eq said file path
              have plainOffer := plain _ offer
              rw [offer, install_eq args plainOffer]
              exact replaceClient_permitted args plainOffer documented
            · exact permitted_ret

namespace Sample

def emptySum : Text := bytes "e3b0c44298fc1c149afbf4c8996fb92427ae41e4649b934ca495991b7852b855"

def otherSum : Text := List.replicate 64 48

def machine (latest : Latest) : Machine where
  directories _ := false
  defaultArch := bytes "amd64"
  realpath _ := none
  loads _ := some (true, some latest)
  sha256 content := if content = [] then emptySum else otherSum
  renames _ _ _ := true
  sh cmd files :=
    match words posix cmd with
    | some [program, path] =>
      if program = bytes "sha256sum" then
        match files path with
        | some content => ((true, (if content = [] then emptySum else otherSum) ++ bytes "  " ++
            path ++ [10]), files)
        | none => ((false, []), files)
      else ((false, []), files)
    | some [_, _, _, _, _, _, path] => ((true, []), Function.update files path (some []))
    | _ => ((true, []), files)

theorem documented (latest : Latest) : Documented (machine latest) where
  length content := by
    change (if content = [] then emptySum else otherSum).length = 64
    split <;> decide
  notNull content := by
    change (0 : UInt8) ∉ if content = [] then emptySum else otherSum
    split <;> decide
  sha256sum cmd path files command _ := by
    simp only [machine, command, if_true]

def command (server dir : Text) : List Text :=
  [bytes "./client", bytes "--auto-update", bytes "--update-server", server,
    bytes "--install-dir", dir]

def commandLine : List Text := command (bytes "http://u/") (bytes "/opt")

def started : World := ⟨fun _ => none, []⟩

def release : Latest :=
  ⟨some (bytes "client-0.0.5"),
    some (bytes "/files/client-0.0.5"), some emptySum⟩

end Sample

/-- A release is installed and executed. -/
theorem release_inert : Inert (Sample.machine Sample.release) Sample.commandLine Accepted true
      Sample.started ∧
    (offered (Sample.machine Sample.release) Sample.commandLine Sample.started).isSome = true := by
  have offer : offered (Sample.machine Sample.release) Sample.commandLine Sample.started =
      some ⟨bytes "client-0.0.5",
        bytes "/files/client-0.0.5", some Sample.emptySum⟩ := by
    decide +kernel
  refine ⟨update_inert (Sample.documented _) ?_ ?_ true, ?_⟩
  · exact ⟨by decide +kernel, by decide +kernel, by decide +kernel, by decide +kernel,
      by decide +kernel, rfl⟩
  · rw [offer]
    rintro o ⟨⟩
    exact ⟨by decide +kernel, by decide +kernel, by decide +kernel, by decide +kernel,
      by decide +kernel, .inl (by decide +kernel), by decide +kernel⟩
  · rw [offer]
    rfl

/-- A quote in the file name ends a word of the shell, a slash in it leaves the directory, and so
does `#1` with a pattern in the URL; a long path is cut off; a file name, a directory or a server
that begins with `-` is an option; the link may be made inside a directory; and without a digest any
file is installed. -/
theorem server_data_acts :
    ¬ Inert (Sample.machine { Sample.release with filename := some (bytes "x'; reboot; '") })
        Sample.commandLine Verified true Sample.started ∧
      ¬ Inert (Sample.machine { Sample.release with filename := some (bytes "../../etc/cron.d/x") })
        Sample.commandLine Verified true Sample.started ∧
      ¬ Inert (Sample.machine { Sample.release with
          filename := some (bytes "#1"), downloadPath := some (bytes "/[a-z]") })
        Sample.commandLine Verified true Sample.started ∧
      ¬ Inert (Sample.machine { Sample.release with downloadPath := some (List.replicate 1100 97) })
        Sample.commandLine Verified true Sample.started ∧
      ¬ Inert (Sample.machine { Sample.release with filename := some (bytes "-t..") })
        Sample.commandLine Verified true Sample.started ∧
      ¬ Inert (Sample.machine Sample.release) (Sample.command (bytes "http://u/") (bytes "-b"))
        Verified true Sample.started ∧
      ¬ Inert (Sample.machine Sample.release) (Sample.command (bytes "-K/") (bytes "/opt"))
        Verified true Sample.started ∧
      ¬ Inert { Sample.machine Sample.release with directories := fun _ => true }
        Sample.commandLine Verified true Sample.started ∧
      ¬ Inert (Sample.machine { Sample.release with sha256 := none })
        Sample.commandLine Verified true Sample.started := by
  refine ⟨?_, ?_, ?_, ?_, ?_, ?_, ?_, ?_, ?_⟩ <;> decide +kernel

end ClientUpdate
