/-
**The file hierarchy that hosts have in common.**

Places are lists of names, from the root down. The tables hold what one can rely on: the directories of the
standard hierarchy with those of the kernel (`standardDirectories`), and a few well-known files
(`standardFiles`), of which it matters whether they can be read and whether they are empty, not what
they say.
-/

import CrashReporter.Text.Utf8

namespace CrashReporter

/-- What stands at a path. -/
inductive FileState where
  | missing
  /-- Something that cannot be read as text, such as a directory or a program. -/
  | unreadable
  | content (octets : List UInt8)
  deriving DecidableEq, Repr

/-- A place below the root. -/
abbrev Place := List String

namespace Place

/-- Directories of the standard hierarchy below the root, listed below the place that they are in. -/
def standardDirectories : List (Place × List String) :=
  [([], ["bin", "boot", "dev", "etc", "home", "lib", "lib64", "media", "mnt", "opt", "proc", "root",
      "run", "sbin", "srv", "sys", "tmp", "usr", "var"]),
    (["usr"], ["bin", "games", "include", "lib", "libexec", "local", "sbin", "share", "src"]),
    (["usr", "local"], ["bin", "etc", "games", "include", "lib", "man", "sbin", "share", "src"]),
    (["usr", "share"], ["doc", "man", "misc"]),
    (["var"], ["cache", "lib", "local", "lock", "log", "mail", "opt", "run", "spool", "tmp"]),
    (["etc"], ["alternatives", "default", "init.d", "opt", "profile.d", "security", "skel", "ssl"]),
    (["etc", "ssl"], ["certs"]),
    (["dev"], ["fd", "pts", "shm"]),
    (["proc"], ["1", "fs", "net", "self", "sys"]),
    (["proc", "self"], ["cwd", "fd", "net", "ns", "root", "task"]),
    (["proc", "sys"], ["fs", "kernel", "net", "vm"]),
    (["sys"], ["block", "bus", "class", "dev", "devices", "firmware", "fs", "kernel", "module",
      "power"]),
    (["run"], ["lock"])]

/-- Files that hosts have. -/
def standardFiles : List (Place × FileState) :=
  [(["dev", "null"], .content []),
    (["etc", "passwd"], .content (Utf8.encode "root:x:0:0:root:/root:/bin/sh\n".toList)),
    (["etc", "group"], .content (Utf8.encode "root:x:0:\n".toList)),
    (["etc", "hosts"], .content (Utf8.encode "127.0.0.1 localhost\n".toList)),
    (["etc", "hostname"], .content (Utf8.encode "localhost\n".toList)),
    (["proc", "version"], .content (Utf8.encode "Linux version\n".toList)),
    (["proc", "cpuinfo"], .content (Utf8.encode "processor : 0\n".toList)),
    (["bin", "sh"], .unreadable),
    (["usr", "bin", "sh"], .unreadable),
    (["usr", "bin", "env"], .unreadable),
    (["proc", "self", "exe"], .unreadable)]

/-- A place is a directory. -/
def isDirectory (place : Place) : Bool :=
  match place.getLast? with
  | none => true
  | some name =>
    standardDirectories.any fun (parent, names) => parent = place.dropLast && name ∈ names

/-- What stands at a place, if that is known of every host. -/
def state? (place : Place) : Option FileState :=
  if place.isDirectory then some .unreadable
  else (standardFiles.find? fun entry => entry.1 = place).map Prod.snd

/-- Where a path leads from a directory; none if it passes through something else. The empty name and a
single dot stay, two dots go up. -/
def walk (place : Place) : List String → Option Place
  | [] => some place
  | name :: rest =>
    if !place.isDirectory then none
    else if name = "" || name = "." then walk place rest
    else if name = ".." then walk place.dropLast rest
    else walk (place ++ [name]) rest

end Place

end CrashReporter
