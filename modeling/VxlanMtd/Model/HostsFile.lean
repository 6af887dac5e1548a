import VxlanMtd.Model.Configurator
import VxlanMtd.Qt.Text

/-!
# The hosts file

`VMTDConfigurator::saveHosts` and `loadHosts`: the managed part of the hosts
file stands between two tags in a text that other programs edit as well.

Both functions work on the text of the file; a file that cannot be opened is
left as it is, and read as the empty text.
-/

namespace VxlanMtd

open QString

/-- `HOSTS_BEG_TAG`. -/
def HOSTS_BEG_TAG : String := "# *HOSTS BEGIN*"

/-- `HOSTS_END_TAG`. -/
def HOSTS_END_TAG : String := "# *HOSTS END*"

/-- `saveHosts`: the text of the file afterwards. -/
def saveHosts (text : List Char) (data : String) : List Char :=
  let begPos := indexOf text HOSTS_BEG_TAG.toList
  if begPos > 0 then
    let endPos := lastIndexOf text HOSTS_END_TAG.toList
    let text := remove text begPos (endPos + size HOSTS_END_TAG.toList - begPos)
    insert text begPos (args "%1\n%2\n%3" [HOSTS_BEG_TAG, data, HOSTS_END_TAG]).toList
  else
    text ++ (args "\n%1\n%2\n%3\n" [HOSTS_BEG_TAG, data, HOSTS_END_TAG]).toList

/-- `loadHosts`. -/
def loadHosts (text : List Char) : String :=
  let begPos := indexOf text HOSTS_BEG_TAG.toList
  if begPos < 0 then ""
  else
    let endPos := lastIndexOf text HOSTS_END_TAG.toList
    let endPos := if endPos < 0 then (size text : Int) else endPos
    let begPos := begPos + size HOSTS_BEG_TAG.toList
    String.ofList (mid text begPos (endPos - begPos))

/-- A restart: the managed part is loaded and saved again. -/
def reloadHosts (text : List Char) : List Char := saveHosts text (loadHosts text)

end VxlanMtd
