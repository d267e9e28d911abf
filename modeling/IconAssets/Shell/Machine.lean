import IconAssets.Shell.Process

/-!
# Machines

What a machine has before anything is put on its disk: folders, shells and utilities.
-/

namespace IconAssets
namespace Shell
namespace Machine

/-- The folders. -/
def folders : List (List String) :=
  [["bin"], ["boot"], ["dev"], ["dev", "fd"], ["dev", "mqueue"], ["dev", "pts"], ["dev", "shm"],
    ["etc"], ["home"], ["lib"], ["media"], ["mnt"], ["opt"], ["proc"], ["proc", "self"],
    ["proc", "self", "fd"], ["root"], ["run"], ["sbin"], ["srv"], ["sys"], ["tmp"], ["usr"], ["usr", "bin"],
    ["usr", "lib"], ["usr", "local"], ["usr", "local", "bin"], ["usr", "sbin"], ["usr", "share"],
    ["var"], ["var", "tmp"]]

/-- The devices. -/
def devices : List (List String × Device) :=
  [(["dev", "null"], .void), (["dev", "zero"], .zeros), (["dev", "full"], .full),
    (["dev", "random"], .noise), (["dev", "urandom"], .noise), (["dev", "tty"], .terminal),
    (["dev", "stdin"], .stream 0 []), (["dev", "stdout"], .stream 1 []),
    (["dev", "stderr"], .stream 2 [])] ++
  ["0", "1", "2"].zipIdx.flatMap fun (name, n) =>
    [(["dev", "fd", name], .stream n []), (["proc", "self", "fd", name], .stream n [])]

/-- The folders with programs. -/
def programFolders : List (List String) := [["bin"], ["usr", "bin"]]

/-- The names of the programs. -/
def programs : List String := shells.map String.ofList ++ Utility.names

/-- The objects of a machine. -/
def objects : List (Place × Object) :=
  (folders.map fun p => (p.map String.toList, Object.folder)) ++
    (devices.map fun e => (e.1.map String.toList, Object.device e.2)) ++
    programFolders.flatMap fun p => programs.map fun name =>
      ((p ++ [name]).map String.toList, Program.machineFile name)

end Machine
end Shell
end IconAssets
