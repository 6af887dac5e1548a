import VxlanMtd.Lib.Pattern

/-!
# The watchdog

`VMTDWatchdog`: it reads the alert file when it changes, keeps the source
addresses of the scans it finds there, and empties the file. After a read it
waits for the delay timer; a change in between is looked at when the timer is
up.

The alert file is an argument: `none` when it cannot be opened.
-/

namespace VxlanMtd

/-- `VMTDWatchdog`. `scanners` stands for a `QSet`, its order has no meaning. -/
structure VMTDWatchdog where
  scanners : List String := []
  isDelayTimerActive : Bool := false
  shouldWait : Bool := false
  shouldCheck : Bool := false
  deriving DecidableEq, Repr

/-- One digit, `\d`. -/
def digit : Pattern.Item := .one Char.isDigit

/-- `\d+`. -/
def digits : Pattern.Item := .plus Char.isDigit

/-- `\d+.\d+.\d+.\d+`, where the dots stand for any character. -/
def addressPattern : List Pattern.Item :=
  [digits, Pattern.dot, digits, Pattern.dot, digits, Pattern.dot, digits]

/-- The group `timestamp` and the blank after it. -/
def timestampPattern : List Pattern.Item :=
  [digit, digit] ++ Pattern.literal "/" ++ [digit, digit] ++ Pattern.literal "-" ++
    [digit, digit] ++ Pattern.literal ":" ++ [digit, digit] ++ Pattern.literal ":" ++
    [digit, digit, Pattern.dot, digits] ++ Pattern.literal " "

/-- `PATTERN`. -/
def alertPattern : List Pattern.Item :=
  timestampPattern ++ addressPattern ++ Pattern.literal ":" ++ [digits] ++
    Pattern.literal " -> " ++ addressPattern ++ Pattern.literal ":" ++ [digits]

/-- `match.captured("src_ip")`. -/
def capturedSrcIp (pieces : List (List Char)) : String :=
  String.ofList ((pieces.drop timestampPattern.length).take addressPattern.length).flatten

/-- The source addresses of the alerts in a text. -/
def srcIps (alertContent : String) : List String :=
  (Pattern.globalMatch alertPattern alertContent.toList).map capturedSrcIp

namespace VMTDWatchdog

/-- `clearScanners`. -/
def clearScanners (watchdog : VMTDWatchdog) : VMTDWatchdog := { watchdog with scanners := [] }

/-- `fileChangedSlot`, with the alert file before and after. -/
def fileChangedSlot (alertFile : Option String) (watchdog : VMTDWatchdog) :
    VMTDWatchdog × Option String :=
  if watchdog.shouldWait then ({ watchdog with shouldCheck := true }, alertFile)
  else
    match alertFile with
    | none => (watchdog, none)
    | some alertContent =>
      ({ watchdog with
          scanners := (srcIps alertContent).foldl (fun scanners srcIp => scanners.insert srcIp) []
          shouldCheck := false
          shouldWait := true
          isDelayTimerActive := true },
        some "")

/-- `delayTimerTickSlot`; the timer is a single shot. -/
def delayTimerTickSlot (alertFile : Option String) (watchdog : VMTDWatchdog) :
    VMTDWatchdog × Option String :=
  let watchdog := { watchdog with shouldWait := false, isDelayTimerActive := false }
  if watchdog.shouldCheck then watchdog.fileChangedSlot alertFile else (watchdog, alertFile)

end VMTDWatchdog

end VxlanMtd
