import TimingBoard.Text.Bytes

/-!
# The files of a machine

A machine has a tree of directories, with links from one place in it to another, and files that hold
bytes or stand for a device. A path leads through the tree part by part, from the root if it starts
with a slash and from the working directory otherwise. Every part but the last must lead to a
directory; a path that ends with a slash, or with a part that only walks about, leads to a directory
itself.
-/

namespace TimingBoard.Tool

/-- A place in the tree: the names that lead to it from the root, the last name first. -/
abbrev Place := List Text

/-- What a file is. -/
inductive File where
  /-- Bytes. -/
  | stored (contents : Bytes)
  /-- Nothing, and everything written is dropped. -/
  | null
  /-- More bytes than can be read. What is written is dropped, or there is no room for it. -/
  | endless (hasRoom : Bool)
  /-- What is typed. -/
  | input
  /-- Where the tool prints. -/
  | output
  /-- Where the tool complains. -/
  | complaints
  deriving DecidableEq

/-- What is at a place. -/
inductive Entry where
  | directory
  | link (target : Place)
  | file (file : File)
  deriving DecidableEq

/-- The directories, links and files of a machine. -/
structure FileTree where
  /-- What is at each place but the root. -/
  entries : List (Place × Entry)
  /-- The working directory. -/
  working : Place
  /-- The directories in which files can be made and written. -/
  writable : List Place
  /-- A text that stands for the path of the working directory. -/
  shorthand : Text

namespace FileTree

/-! ## Paths -/

/-- What is at a place. -/
def entry? (t : FileTree) (p : Place) : Option Entry :=
  if p = [] then some .directory else t.entries.lookup p

/-- The place that a part of a path leads to from a place, which must be a directory. A name has at
most 255 bytes. -/
def step (t : FileTree) (here : Place) (part : Text) : Option Place :=
  if t.entry? here ≠ some .directory then none
  else if part = [] ∨ part = ['.'] then some here
  else if part = "..".toList then some here.tail
  else if 255 < (Text.toUtf8 part).length then none
  else
    match t.entry? (part :: here) with
    | some (.link target) => some target
    | _ => some (part :: here)

/-- Where a path starts, given its first part. -/
def start (t : FileTree) (first : Text) : Place :=
  if first = [] ∨ first = t.shorthand then [] else t.working

/-- The place that a path leads to. There need not be anything. A path has fewer than 4096 bytes. -/
def place? (t : FileTree) (path : Text) : Option Place :=
  if path = [] ∨ 4096 ≤ (Text.toUtf8 path).length then none
  else
    let parts := Text.fields (· == '/') path
    parts.foldlM t.step (t.start (parts.headD []))

/-! ## Files -/

/-- The file that a path leads to. -/
def file? (t : FileTree) (path : Text) : Option File :=
  match (t.place? path).bind t.entry? with
  | some (.file file) => some file
  | _ => none

/-- The bytes of the file that a path leads to. -/
def contents? (t : FileTree) (path : Text) : Option Bytes :=
  match t.file? path with
  | some (.stored contents) => some contents
  | _ => none

/-- The tree with a file of the given bytes at a place. -/
def put (p : Place) (contents : Bytes) (t : FileTree) : FileTree :=
  { t with entries := (p, .file (.stored contents)) :: t.entries.filter (·.1 != p) }

/-- The tree after bytes were stored where a path leads. Nothing can be stored in place of something
else, or in a directory that is not writable. -/
def store? (path : Text) (contents : Bytes) (t : FileTree) : Option FileTree := do
  let p ← t.place? path
  if p.tail ∉ t.writable then none
  else
    match t.entry? p with
    | none | some (.file (.stored _)) => return t.put p contents
    | _ => none

/-! ## A usual machine -/

/-- The place of an absolute path without its first slash. -/
def placeOf (path : String) : Place :=
  (Text.fields (· == '/') path.toList).reverse

/-- The directories of a usual machine. -/
def usualDirectories : List String := [
  "boot", "dev", "dev/pts", "dev/shm", "etc", "home", "media", "mnt", "opt", "proc", "proc/self",
  "proc/self/fd", "root", "run", "srv", "sys", "tmp", "usr", "usr/bin", "usr/lib", "usr/lib64",
  "usr/local", "usr/sbin", "usr/share", "var", "var/lib", "var/log", "var/tmp"]

/-- The links of a usual machine. -/
def usualLinks : List (String × String) := [
  ("bin", "usr/bin"), ("sbin", "usr/sbin"), ("lib", "usr/lib"), ("lib64", "usr/lib64"),
  ("var/run", "run"), ("dev/fd", "proc/self/fd")]

/-- The devices of a usual machine. -/
def usualDevices : List (String × File) := [
  ("dev/null", .null), ("dev/zero", .endless true), ("dev/random", .endless true),
  ("dev/urandom", .endless true), ("dev/full", .endless false),
  ("dev/stdin", .input), ("dev/stdout", .output), ("dev/stderr", .complaints),
  ("proc/self/fd/0", .input), ("proc/self/fd/1", .output), ("proc/self/fd/2", .complaints)]

/-- Files that a usual machine keeps for itself. What they say matters to nobody else here. -/
def usualTexts : List String := [
  "etc/passwd", "etc/group", "etc/hosts", "etc/hostname", "etc/resolv.conf", "etc/os-release",
  "etc/fstab", "etc/profile", "etc/shells", "etc/issue", "etc/nsswitch.conf", "etc/host.conf",
  "etc/login.defs", "etc/ld.so.conf", "etc/debian_version", "etc/bash.bashrc", "etc/environment",
  "etc/shadow", "usr/lib/os-release", "proc/version", "proc/cpuinfo", "proc/meminfo", "proc/mounts",
  "proc/uptime", "proc/loadavg", "proc/stat", "proc/filesystems", "proc/self/status",
  "proc/self/stat", "proc/self/maps", "proc/self/mounts", "proc/self/comm", "proc/self/cmdline",
  "proc/self/environ", "proc/self/limits", "proc/self/cgroup"]

/-- A usual machine with a working directory that holds the given files. -/
def usual (shorthand : Text) (files : List (Text × Bytes)) : FileTree :=
  let working : Place := [shorthand, "tmp".toList]
  let links : List (Place × Place) :=
    [([shorthand], working), (placeOf "proc/self/cwd", working), (placeOf "proc/self/root", [])] ++
      usualLinks.map fun (path, target) => (placeOf path, placeOf target)
  let text := Text.toUtf8 "of no interest\n".toList
  let entries : List (Place × Entry) :=
    files.map (fun (name, contents) => ([name] ++ working, .file (.stored contents))) ++
      [(working, .directory)] ++
      usualDirectories.map (fun path => (placeOf path, .directory)) ++
      links.map (fun (p, target) => (p, .link target)) ++
      usualDevices.map (fun (path, file) => (placeOf path, .file file)) ++
      usualTexts.map fun path => (placeOf path, .file (.stored text))
  ⟨entries, working, working :: ["tmp", "var/tmp", "dev/shm"].map placeOf, shorthand⟩

end FileTree

end TimingBoard.Tool
