import DoorSystem.Lib.Paths

/-!
# The static files

The listener of the HTTP server in `server.js`: the path in the URL is joined to the directory of
the server and the file there is sent. The URL is the request target as it came, not decoded and
with its query, so a name with a blank has none. Requests under `/socket.io/` are taken by the
library before the listener.

`path.join` resolves the steps up together with the directory. So the file is the one at the place
the URL leads to from the directory (`requestListener_eq`), and that is any place of the machine:
a URL without steps up stays below the directory, and one that climbs to the root reaches every
file that the process may read (`static_files`).
-/

namespace DoorSystem

open CLib

namespace Node

section StaticFiles

variable {δ : Type}

/-! ### The listener -/

/-- What `fs.readFile` reads, by the names on the way down to the file. -/
structure Disk (δ : Type) where
  file : List CStr → Option δ
  /-- The root is a directory. -/
  root : file [] = none

/-- `fs.readFile`. A path that ends in a slash names a directory. -/
def Disk.readFile (K : Disk δ) (absPath : CStr) : Option δ :=
  if absPath.getLast? = some '/' then none else K.file (tokens isSlash absPath)

inductive Body (δ : Type)
  | text (s : CStr)
  | data (d : δ)
deriving DecidableEq

/-- `writeHead` and `end`. -/
structure StaticReply (δ : Type) where
  status : ℕ
  contentType : CStr
  body : Body δ
deriving DecidableEq

def mimeType (filename : CStr) : CStr :=
  if ".html".toList.isSuffixOf filename then "text/html".toList
  else if ".css".toList.isSuffixOf filename then "text/css".toList
  else if ".js".toList.isSuffixOf filename then "application/javascript".toList
  else if ".json".toList.isSuffixOf filename then "application/json".toList
  else "application/octet-stream".toList

def resourceNotFound : StaticReply δ :=
  ⟨404, "text/plain".toList, .text "Error 404: resource not found.".toList⟩

def filePath (url : CStr) : CStr := if url = ['/'] then "index.html".toList else url

/-- The callback of `http.createServer`. -/
def requestListener (K : Disk δ) (dirname url : CStr) : StaticReply δ :=
  let absPath := join [dirname, filePath url]
  match K.readFile absPath with
  | none => resourceNotFound
  | some data => ⟨200, mimeType (basename absPath), .data data⟩

/-! ### Places -/

/-- The directory of `server.js`. -/
structure ServerDir where
  entries : List CStr
  isEntry : ∀ w ∈ entries, IsEntry w

/-- `__dirname`. -/
def ServerDir.dirname (D : ServerDir) : CStr := absText D.entries

/-- The target of a request. -/
structure Url where
  text : CStr
  ne_nil : text ≠ []

/-- Where a URL leads to. -/
def ServerDir.place (D : ServerDir) (u : Url) : List CStr :=
  walk D.entries (pathSteps (filePath u.text))

/-- The reply with the file at a place. -/
def fileReply (K : Disk δ) (ws : List CStr) : StaticReply δ :=
  match K.file ws with
  | none => resourceNotFound
  | some data => ⟨200, mimeType (ws.getLast?.getD []), .data data⟩

/-- Up to the root, and down to a place. -/
def ServerDir.climb (D : ServerDir) (ws : List CStr) : Url where
  text := (List.replicate (D.entries.length + 1) "/..".toList).flatten ++ absText ws
  ne_nil := List.append_ne_nil_of_right_ne_nil _ (List.cons_ne_nil _ _)

variable (K : Disk δ) (D : ServerDir)

theorem filePath_ne_nil (u : Url) : filePath u.text ≠ [] := by
  unfold filePath
  split
  · exact List.cons_ne_nil _ _
  · exact u.ne_nil

theorem ServerDir.isEntry_place (u : Url) : ∀ w ∈ D.place u, IsEntry w :=
  forall_mem_walk D.isEntry (fun _ h_w => isEntry_of_mem_pathSteps h_w)

@[simp] theorem fileReply_root : fileReply K [] = resourceNotFound := by
  unfold fileReply
  rw [K.root]

/-- The file of the path of a place. -/
theorem Disk.readFile_absText {ws : List CStr} (h_ws : ∀ w ∈ ws, IsEntry w) :
    K.readFile (absText ws) = K.file ws := by
  unfold Disk.readFile
  rcases eq_or_ne ws [] with rfl | h_ne
  · rw [K.root]
    rfl
  · rw [if_neg (getLast_absText h_ws h_ne), tokens_absText h_ws]

theorem Disk.readFile_slash (s : CStr) : K.readFile (s ++ ['/']) = none := by
  unfold Disk.readFile
  rw [if_pos List.getLast?_concat]

/-- **The listener sends the file at the place** the URL leads to, unless it ends in a slash. -/
theorem requestListener_eq (u : Url) :
    requestListener K D.dirname u.text =
      if (filePath u.text).getLast? = some '/' then resourceNotFound
      else fileReply K (D.place u) := by
  have h_entry := D.isEntry_place u
  have h_join : join [D.dirname, filePath u.text] = absText (D.place u) ++
      (if D.place u ≠ [] ∧ (filePath u.text).getLast? = some '/' then ['/'] else []) :=
    join_absText D.isEntry (filePath_ne_nil u)
  unfold requestListener
  rw [h_join]
  dsimp only
  by_cases h_slash : (filePath u.text).getLast? = some '/'
  · -- the slash stays at the end of the path, and the path of the root is one
    rw [if_pos h_slash]
    rcases eq_or_ne (D.place u) [] with h_root | h_ne
    · rw [if_neg (fun h => h.1 h_root), h_root]
      rfl
    · rw [if_pos ⟨h_ne, h_slash⟩, K.readFile_slash]
  · rw [if_neg h_slash, if_neg (fun h => h_slash h.2), List.append_nil,
      K.readFile_absText h_entry]
    unfold fileReply basename
    rw [tokens_absText h_entry]

/-! ### Which files are sent -/

/-- A URL without steps up stays below the directory. -/
theorem ServerDir.prefix_place {u : Url}
    (h_u : ['.', '.'] ∉ tokens isSlash (filePath u.text)) : D.entries <+: D.place u := by
  have h_steps : ∀ s ∈ pathSteps (filePath u.text), s ≠ .up := by
    rintro s h_s rfl
    exact h_u (up_mem_pathSteps_iff.mp h_s)
  obtain ⟨ws, h_ws⟩ := exists_into h_steps
  unfold ServerDir.place
  rw [h_ws, walk_into]
  exact List.prefix_append D.entries ws

theorem filePath_of_ne {url : CStr} (h_url : url ≠ ['/']) : filePath url = url := if_neg h_url

/-- The URL of a place below the directory. -/
theorem ServerDir.place_absText {ws : List CStr} (h_ws : ∀ w ∈ ws, IsEntry w) (h_ne : ws ≠ []) :
    D.place ⟨absText ws, List.cons_ne_nil _ _⟩ = D.entries ++ ws := by
  unfold ServerDir.place
  rw [filePath_of_ne (absText_ne_slash h_ws h_ne), pathSteps_absText h_ws, walk_into]

theorem ServerDir.climb_ne (ws : List CStr) : (D.climb ws).text ≠ ['/'] := by
  unfold ServerDir.climb
  dsimp only
  rw [List.replicate_succ, List.flatten_cons]
  exact fun h => absurd (List.cons.inj h).2 (by simp)

theorem ServerDir.place_climb {ws : List CStr} (h_ws : ∀ w ∈ ws, IsEntry w) :
    D.place (D.climb ws) = ws := by
  -- as many steps up as the directory is deep, and one more, lead to the root
  have h_down := pathSteps_absText h_ws
  unfold absText at h_down
  rw [pathSteps_cons] at h_down
  unfold ServerDir.place
  rw [filePath_of_ne (D.climb_ne ws)]
  unfold ServerDir.climb absText
  rw [pathSteps_ups, h_down]
  exact walk_up_into D.entries ws (Nat.le_succ _)

/-- The URL that climbs ends in a slash for the root only. -/
theorem ServerDir.getLast_climb {ws : List CStr} (h_ws : ∀ w ∈ ws, IsEntry w) (h_ne : ws ≠ []) :
    (D.climb ws).text.getLast? ≠ some '/' := by
  unfold ServerDir.climb
  dsimp only
  rw [List.getLast?_append_of_ne_nil _ (show absText ws ≠ [] from List.cons_ne_nil _ _)]
  exact getLast_absText h_ws h_ne

theorem requestListener_climb {ws : List CStr} (h_ws : ∀ w ∈ ws, IsEntry w) :
    requestListener K D.dirname (D.climb ws).text = fileReply K ws := by
  rw [requestListener_eq, D.place_climb h_ws, filePath_of_ne (D.climb_ne ws)]
  rcases eq_or_ne ws [] with rfl | h_ne
  · rw [fileReply_root, ite_self]
  · rw [if_neg (D.getLast_climb h_ws h_ne)]

/-- **Which files are sent.** The reply is the file at the place the URL leads to. That is below the
directory exactly where the URL comes down the way it has climbed, and surely where it has no step
up; every file below the directory has the URL of its own path; and every file of the machine that
the process may read is sent for the URL that climbs to the root. -/
theorem static_files (K : Disk δ) (D : ServerDir) :
    (∀ u : Url, requestListener K D.dirname u.text =
      if (filePath u.text).getLast? = some '/' then resourceNotFound
      else fileReply K (D.place u)) ∧
    (∀ u : Url, D.entries <+: D.place u ↔
      D.entries.rtake (reduced (pathSteps (filePath u.text))).1 <+:
        (reduced (pathSteps (filePath u.text))).2) ∧
    (∀ u : Url, "..".toList ∉ tokens isSlash (filePath u.text) → D.entries <+: D.place u) ∧
    (∀ ws : List CStr, (∀ w ∈ ws, IsEntry w) → ws ≠ [] →
      requestListener K D.dirname (absText ws) = fileReply K (D.entries ++ ws)) ∧
    ∀ ws : List CStr, (∀ w ∈ ws, IsEntry w) →
      requestListener K D.dirname (D.climb ws).text = fileReply K ws := by
  refine ⟨requestListener_eq K D, fun u => isPrefix_walk_iff D.entries _, ?_, ?_, ?_⟩
  · exact fun u h_u => D.prefix_place h_u
  · -- a plain path has no step up, so its place is its own
    intro ws h_ws h_ne
    have h_reply := requestListener_eq K D ⟨absText ws, List.cons_ne_nil _ _⟩
    rw [D.place_absText h_ws h_ne] at h_reply
    rw [h_reply, filePath_of_ne (absText_ne_slash h_ws h_ne),
      if_neg (getLast_absText h_ws h_ne)]
  · exact fun ws h_ws => requestListener_climb K D h_ws

/-- A machine with one file that is not below the directory of the server. -/
def passwdDisk : Disk ℕ where
  file ws := if ws = ["etc".toList, "passwd".toList] then some 7 else none
  root := rfl

/-- The server is started in `/home/gui`. -/
def guiDir : ServerDir where
  entries := ["home".toList, "gui".toList]
  isEntry := by decide

theorem static_files_passwd :
    requestListener passwdDisk "/home/gui".toList "/../../../etc/passwd".toList
      = ⟨200, "application/octet-stream".toList, .data 7⟩ :=
  (static_files passwdDisk guiDir).2.2.2.2 ["etc".toList, "passwd".toList] (by decide)

end StaticFiles

end Node

end DoorSystem
