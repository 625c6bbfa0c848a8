/-!
# Reading a file by its path

A seed file is read by path on the machine the gateway runs on. Reading gives the file's text
or the reason it cannot be read, in the words of the operating system:

* `open <path>: no such file or directory` when a component of the path does not exist;
* `open <path>: not a directory` when a file stands where a directory is needed: before a
  further component, or last with a trailing slash;
* `open <path>: file name too long` for a path of 4096 bytes or more, or a component of more
  than 255 bytes looked up in a directory;
* `read <path>: is a directory` when the path names a directory, which opens but does not
  read.

The machine has the usual top-level directories of a Linux system and a few of their
subdirectories (`FileSystem.directories`), the empty device file `/dev/null`, and the
system files every Linux root holds: the user table `/etc/passwd`, the host table
`/etc/hosts`, the machine's name `/etc/hostname` and the release description
`/etc/os-release`. Their texts are given as representative lines: no such text is a seed,
since each reads as one plain multi-line value rather than a mapping. Nothing else is known
to exist. A path is walked component by component: empty components (repeated
slashes) are skipped, `.` stays and `..` goes up, the root being its own parent. A relative
path starts at the working directory, a directory none of whose entries is known. The empty
path names nothing.
-/

namespace Admission.FileSystem

/-- The directories of the machine, as their components from the root. -/
def directories : List (List String) :=
  [[], ["bin"], ["boot"], ["dev"], ["etc"], ["home"], ["lib"], ["media"], ["mnt"], ["opt"],
    ["proc"], ["root"], ["run"], ["sbin"], ["srv"], ["sys"], ["tmp"], ["usr"], ["var"],
    ["usr", "bin"], ["usr", "lib"], ["usr", "local"], ["usr", "sbin"], ["usr", "share"],
    ["var", "lib"], ["var", "log"], ["var", "tmp"]]

/-- The files of the machine, as their components from the root, each with its text. -/
def files : List (List String × String) :=
  [(["dev", "null"], ""),
    (["etc", "passwd"],
      "root:x:0:0:root:/root:/bin/bash\n" ++ "daemon:x:1:1:daemon:/usr/sbin:/usr/sbin/nologin\n"),
    (["etc", "hosts"], "127.0.0.1\tlocalhost\n::1\tlocalhost ip6-localhost ip6-loopback\n"),
    (["etc", "hostname"], "localhost\n"),
    (["etc", "os-release"], "NAME=\"Linux\"\nID=linux\n")]

/-- Where a walk through a path stands. -/
inductive Place where
  /-- A directory of the machine, by its components from the root. -/
  | directory (parts : List String)
  /-- The working directory or one of its ancestors: a directory with no known entries. -/
  | working
  /-- A file of the machine, with its text. -/
  | file (text : String)
  deriving DecidableEq, Repr

/-- Why a path cannot be opened. -/
inductive OpenFailure where
  /-- A component does not exist. -/
  | missing
  /-- A file stands where a directory is needed. -/
  | notDirectory
  /-- The path, or a component looked up, is longer than names may be. -/
  | nameTooLong
  deriving DecidableEq, Repr

/-- The most bytes a component may have. -/
def maxComponentBytes : Nat := 255

/-- The fewest bytes a path too long to open has. -/
def pathLimitBytes : Nat := 4096

/-- One step of a walk: the place a component leads to from a place. -/
def step (place : Place) (component : String) : Except OpenFailure Place :=
  match place with
  | .file _ => .error .notDirectory
  | .working =>
    if component = "." || component = ".." then .ok .working
    else if component.utf8ByteSize > maxComponentBytes then .error .nameTooLong
    else .error .missing
  | .directory parts =>
    if component.utf8ByteSize > maxComponentBytes then .error .nameTooLong
    else if component = "." then .ok (.directory parts)
    else if component = ".." then .ok (.directory parts.dropLast)
    else
      let child := parts ++ [component]
      if directories.contains child then .ok (.directory child)
      else
        match files.find? (·.1 == child) with
        | some (_, text) => .ok (.file text)
        | none => .error .missing

/-- Walks the components of a path from a place; empty components are skipped. -/
def walk : Place → List String → Except OpenFailure Place
  | place, [] => .ok place
  | place, c :: cs =>
    if c.isEmpty then walk place cs
    else do
      let next ← step place c
      walk next cs

/-- The place a path names; the empty path names nothing. A trailing slash asks for a
directory. -/
def locate (path : String) : Except OpenFailure Place := do
  if path.isEmpty then throw .missing
  if path.utf8ByteSize ≥ pathLimitBytes then throw .nameTooLong
  let start : Place := if path.startsWith "/" then .directory [] else .working
  let place ← walk start (path.splitOn "/")
  match place with
  | .file _ => if path.endsWith "/" then .error .notDirectory else pure place
  | _ => pure place

/-- The text of the file at a path, or the reason it cannot be read. -/
def readFile (path : String) : Except String String :=
  match locate path with
  | .error .missing => .error ("open " ++ path ++ ": no such file or directory")
  | .error .notDirectory => .error ("open " ++ path ++ ": not a directory")
  | .error .nameTooLong => .error ("open " ++ path ++ ": file name too long")
  | .ok (.file text) => .ok text
  | .ok _ => .error ("read " ++ path ++ ": is a directory")

end Admission.FileSystem
