import MountKeeper.Remount.Record

/-! # Units

A unit is the file by which the system's service manager brings a mount back.

* `RemountUnit.name` is the name of the unit of a mount path.
* `RemountUnit.render` is the text of the unit of a record. -/

namespace MountKeeper.RemountUnit

/-- The name of the unit of a mount path. -/
def name (key : SessionKey) : String :=
  "cloudfuse" ++ key.fileStem '-' ++ ".service"

/-- The command that a unit starts a mount with. -/
def startCommand (binary : String) (record : RemountRecord) : String :=
  s!"{binary} mount {record.key.text} --config-file={record.configPath} -o allow_other"

/-- The lines of a unit. -/
def lines (binary : String) (record : RemountRecord) : List String := [
  "[Unit]",
  s!"Description=Cloudfuse mount of {record.key.text}",
  "After=network-online.target",
  "Requires=network-online.target",
  "",
  "[Service]",
  s!"User={record.runAs}",
  "Type=forking",
  "ExecStart=" ++ startCommand binary record,
  s!"ExecStop=/usr/bin/fusermount -u {record.key.text} -z",
  "",
  "[Install]",
  "WantedBy=multi-user.target"]

/-- The text of a unit. -/
def render (binary : String) (record : RemountRecord) : String :=
  String.join ((lines binary record).map (· ++ "\n"))

end MountKeeper.RemountUnit
