import VxlanMtd.Model.HostsFile
import VxlanMtd.Model.Settings

/-!
# Applying a configuration on a host

`applyNetplanSlot` writes two netplan files and the hosts file, and runs a
shell command. Each of these steps can fail; a file that cannot be opened is
left as it is, and the steps after it are taken all the same.

What the host does is an input of the model: which files can be opened, and the
exit code of a shell command (`HostOutcome`). Files are texts here; their
encoding in UTF-8 is left out.
-/

namespace VxlanMtd

/-- The texts of a host's files, by path. -/
abbrev HostFiles := String → Option String

/-- What the host does with the steps of one apply. -/
structure HostOutcome where
  opensNetplan1 : Bool
  opensNetplan2 : Bool
  readsHosts : Bool
  rewritesHosts : Bool
  /-- The exit code of a command that the shell is given. -/
  exitCode : String → Int

/-- `NETPLAN_PATH_TEMPLATE`. -/
def netplanPathTemplate : String := "/etc/netplan/"

def netplanFilePath (fileName : String) : String :=
  netplanPathTemplate ++ args "%1.%2" [fileName, "yaml"]

/-- `netplan1FilePath`. -/
def netplan1FilePath (settings : VMTDSettings) : String :=
  netplanFilePath settings.netplan1FileName

/-- `netplan2FilePath`. -/
def netplan2FilePath (settings : VMTDSettings) : String :=
  netplanFilePath settings.netplan2FileName

/-- `hostsFilePath`. -/
def hostsFilePath : String := "/etc/hosts"

namespace HostFiles

/-- `save`. -/
def save (opens : Bool) (filePath data : String) (files : HostFiles) : HostFiles :=
  if opens then Function.update files filePath (some data) else files

/-- `saveHosts`, which opens the file twice. A file that is not there cannot be
read. -/
def saveHosts (reads rewrites : Bool) (filePath data : String) (files : HostFiles) : HostFiles :=
  match files filePath with
  | none => files
  | some text =>
    if reads && rewrites then
      Function.update files filePath (some (String.ofList (VxlanMtd.saveHosts text.toList data)))
    else files

end HostFiles

/-- The files and the exit code after `applyNetplanSlot`. -/
def Application.perform (settings : VMTDSettings) (outcome : HostOutcome)
    (application : Application) (files : HostFiles) : HostFiles × Int :=
  let files := files.save outcome.opensNetplan1 (netplan1FilePath settings) application.netplan1
  let files := files.save outcome.opensNetplan2 (netplan2FilePath settings) application.netplan2
  let files :=
    files.saveHosts outcome.readsHosts outcome.rewritesHosts hostsFilePath application.hosts
  (files, outcome.exitCode application.shellText)

/-- A request on a host: the result, and the files and the exit code if
something was applied. -/
def VMTDConfigurator.request (settings : VMTDSettings) (outcome : HostOutcome) (method : String)
    (params : QJsonObject) (configurator : VMTDConfigurator) (files : HostFiles) :
    QJsonValue × HostFiles × Option Int :=
  let handled := configurator.handleMethodSlot method params
  match handled.application with
  | none => (handled.result, files, none)
  | some application =>
    let (files, exitCode) := application.perform settings outcome files
    (handled.result, files, some exitCode)

end VxlanMtd
