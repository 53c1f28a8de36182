import SessionSquash.Record.Basic
import SessionSquash.Data.KeyMap

namespace SessionSquash

structure WindowTracker where
  mainInventory : Option TimedRecord := none
  slotChanges : KeyMap Int16 TimedRecord := {}
  currentWindow : List TimedRecord := []
  closeRecords : List TimedRecord := []
deriving Inhabited

namespace WindowTracker

/-- A full snapshot supersedes the slot changes before it. -/
def onMainInventory (w : WindowTracker) (r : TimedRecord) : WindowTracker :=
  { w with mainInventory := some r, slotChanges := {} }

def onMainSlot (w : WindowTracker) (slot : Int16) (r : TimedRecord) : WindowTracker :=
  { w with slotChanges := w.slotChanges.insert slot r }

def onSecondary (w : WindowTracker) (r : TimedRecord) : WindowTracker :=
  { w with currentWindow := w.currentWindow ++ [r] }

/-- A close record is kept and ends the secondary window. -/
def onClose (w : WindowTracker) (r : TimedRecord) : WindowTracker :=
  { w with currentWindow := [], closeRecords := w.closeRecords ++ [r] }

def clearCurrent (w : WindowTracker) : WindowTracker := { w with currentWindow := [] }

def slotChangeCount (w : WindowTracker) : Nat := w.slotChanges.size

def secondaryLength (w : WindowTracker) : Nat := w.currentWindow.length

/-- The secondary window's records, the close records, the snapshot, then slot changes. -/
def synthesize (w : WindowTracker) : List TimedRecord :=
  w.currentWindow ++ w.closeRecords ++ w.mainInventory.toList ++ w.slotChanges.values

end WindowTracker

end SessionSquash
