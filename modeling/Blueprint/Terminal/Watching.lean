import Blueprint.Terminal.Block
import Blueprint.Watch.Run

/-!
# Output of watches

A line for every event of a watch, with the time of day in front.
-/

namespace Blueprint.Terminal

def watchHeader (snapshot out : String) : Header :=
  ⟨.watch, "archlab watch",
    [("Snapshot", snapshot), ("Output", out), ("Hint", "Press Ctrl+C to stop")]⟩

/-- The icon and the words for an event. -/
def watchWords : WatchEvent → Icon × String
  | .watchStarted snapshot _ => (.watch, "Watching: " ++ snapshot)
  | .snapshotChanged path => (.arrow, "Changed: " ++ path)
  | .generateStarted => (.progress, "Generating...")
  | .generateComplete errors warnings wrote kept blocked =>
    let clean := errors + warnings = 0
    let findings := if clean then "" else s!" ({errors} errors, {warnings} warnings)"
    if blocked then (.error, "Blocked by findings" ++ findings)
    else
      (if clean then .success else .warning,
        s!"Generated: {wrote} written, {kept} unchanged" ++ findings)
  | .error message => (.error, "Error: " ++ message)
  | .shutdown => (.watch, "Watch stopped.")

def watchLine (time : String) (e : WatchEvent) (look : Look) : String :=
  let (icon, words) := watchWords e
  (if e = .shutdown then "\n" else "") ++ s!"[{time}] " ++ icon.render look ++ " " ++ words ++ "\n"

end Blueprint.Terminal
