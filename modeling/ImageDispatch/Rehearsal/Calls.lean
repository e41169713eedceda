import ImageDispatch.Boundary.Entry
import ImageDispatch.Rehearsal.Session

/-!
# Calls from C

A rehearsal of the entry points for callers in C, step by step.

* `CallerImage`: an image in the memory of the caller.
* `CallStep`: what can be called. `CallAnswer`: what comes of it.
* `Cast.playCalls`: makes all calls on a dispatcher of their own.
-/

namespace ImageDispatch.Rehearsal

/-! ## The memory of the caller -/

/-- Numbers in a descriptor that are changed after it was made. -/
structure DescriptorChanges where
  width : Option UInt32 := none
  height : Option UInt32 := none
  stride : Option UInt32 := none
  heightStride : Option UInt32 := none
  format : Option Int32 := none
  primaries : Option Int32 := none
  transfer : Option Int32 := none
  matrix : Option Int32 := none
  range : Option Int32 := none
  metadataType : Option Int32 := none
  length : Option Nat := none
  nullData : Bool := false

/-- The descriptor with the changes. -/
def DescriptorChanges.apply (c : DescriptorChanges) (d : ImageDescriptor) : ImageDescriptor :=
  { d with
    width := c.width.getD d.width
    height := c.height.getD d.height
    stride := c.stride.getD d.stride
    heightStride := c.heightStride.getD d.heightStride
    format := c.format.getD d.format
    primaries := c.primaries.getD d.primaries
    transfer := c.transfer.getD d.transfer
    matrix := c.matrix.getD d.matrix
    range := c.range.getD d.range
    metadataType := c.metadataType.getD d.metadataType
    length := c.length.getD d.length
    data := if c.nullData then none else d.data }

/-- An image in the memory of the caller. -/
structure CallerImage where
  descriptor : ImageDescriptor
  /-- The pixel data, also if the descriptor does not point to it. -/
  pixels : Bytes

namespace CallerImage

/-- What fills the room for metadata at first. -/
def filler : UInt8 := 0xee

/-- The image of a surface, with changes in the descriptor, and with room for metadata if there is
any. -/
def ofSurface (s : Surface) (changes : DescriptorChanges) (room : Option Nat) : CallerImage :=
  let d := changes.apply (.describe s)
  let d := match room with
    | some n => { d with staticMetadata := some (Array.replicate n filler), staticCapacity := n }
    | none => d
  ⟨d, s.data⟩

/-- The pixel data that the caller sees. -/
def data (i : CallerImage) : Bytes := i.descriptor.data.getD i.pixels

/-- The metadata that the caller sees. -/
def blob (i : CallerImage) : Bytes := i.descriptor.staticMetadata.getD #[]

/-- The image after a call. -/
def after (i : CallerImage) (d : Option ImageDescriptor) : CallerImage :=
  { i with descriptor := d.getD i.descriptor }

/-- The image after a surface has been written back, and how that ended. -/
def writeBack (i : CallerImage) (s : Surface) : Except Error Unit × CallerImage :=
  match i.descriptor.writeBack s with
  | .ok d => (.ok (), i.after (some d))
  | .error e => (.error e, i)

end CallerImage

/-! ## Calls -/

/-- How the dispatcher of a rehearsal comes about. -/
inductive Origin
  | installed
  /-- The first call that needs it makes it from settings. -/
  | settings (lookup : String → Option String)

/-- The dispatcher is there before the first call. -/
def Origin.isPlaced : Origin → Bool
  | installed => true
  | settings _ => false

/-- What is told when a call makes the dispatcher. -/
def Origin.announcement : Origin → List Event
  | installed => []
  | settings lookup => Host.announcement lookup

/-- A call. -/
inductive CallStep
  | init
  /-- Try to put another dispatcher, one without extensions, in place. -/
  | install
  | create (family : InstanceFamily) (level : Int32) (isNull : Bool) (name : Option String)
  | fill (family : InstanceFamily) (n : Nat)
  | process (family : InstanceFamily) (id : IdName) (input output : Option CallerImage)
  | destroy (family : InstanceFamily) (id : IdName) (isNull : Bool)
  | handle (id : IdName)
  | described

/-- What comes of a call. -/
inductive CallAnswer
  | status (s : Status)
  | flag (yes : Bool)
  /-- A status code, and the number where the id stands. -/
  | id (s : Status) (id : Int32)
  /-- How often each status code came, and the first and the last id. -/
  | filled (counts : List (Status × Nat)) (first last : Option Int32)
  /-- A status code, and the image that was written. -/
  | processed (s : Status) (output : Option CallerImage)
  | handle (r : Except Error FacadeView)
  | lines (text : List String)

namespace Session

variable (host : Host Memory) (origin : Origin)

/-- What stands where an id goes before a call puts one there. -/
def vacantId : Int32 := -7

/-- Creates an instance, and answers with the status and with what stands where the id goes. -/
def createInstance (family : InstanceFamily) (level : Int32) (isNull : Bool) :
    Play (Status × Int32) := do
  let pointer := if isNull then none else some vacantId
  let (status, id) ← act (host.createInstance origin.announcement family level pointer)
  return (status, id.getD vacantId)

/-- Creates instances, and answers with the outcomes in order. -/
def createMany (family : InstanceFamily) : Nat → Play (List (Status × Int32))
  | 0 => return []
  | n + 1 => do
    let first ← createInstance host origin family 0 false
    return first :: (← createMany family n)

/-- How often each status code came. -/
def statusCounts (codes : List Status) : List (Status × Nat) :=
  codes.eraseDups.map fun s => (s, codes.count s)

/-- Makes a call. -/
def makeCall : CallStep → Play CallAnswer
  | .init => do
    act (Host.begin origin.announcement)
    return .status .ok
  | .install => do
    let isFree := !(← get).world.started
    modify fun s => { s with world.started := true }
    return .flag isFree
  | .create family level isNull name => do
    let (status, id) ← createInstance host origin family level isNull
    if let some name := name then
      modify fun s => { s with ids := s.ids.set name id }
    return .id status id
  | .fill family n => do
    let outcomes ← createMany host origin family n
    return .filled (statusCounts (outcomes.map Prod.fst)) (outcomes.head?.map Prod.snd)
      (outcomes.getLast?.map Prod.snd)
  | .process family id input output => do
    let id ← idOf id
    let (status, d) ← act (host.processImage origin.announcement family id
      (input.map CallerImage.descriptor) (output.map CallerImage.descriptor))
    return .processed status (output.map fun image => image.after d)
  | .destroy family id isNull => do
    let id ← idOf id
    let pointer := if isNull then none else some id
    let (status, after) ← act (host.destroyInstance origin.announcement family pointer)
    return .id status (after.getD id)
  | .handle id => do
    let id ← idOf id
    act (Host.begin origin.announcement)
    match ← handleOf host id none with
    | .handle r => return .handle r
    | _ => return .lines []
  | .described => do
    let isThere := (← get).world.started
    return .lines (if isThere then metricDescriptions.map MetricDescription.text else [])

/-- Makes a call and turns to the dispatcher for what is told after it. If no call has made the
dispatcher yet, this does. -/
def makeCallAndLook (step : CallStep) : Play CallAnswer := do
  let answer ← makeCall host origin step
  act (Host.begin origin.announcement)
  return answer

end Session

namespace Cast

/-- The dispatcher that calls work with. Once a call has been made the dispatcher is there, so an
installation finds the place free only before all other calls. -/
def inPlace (c : Cast) : Origin → List CallStep → Host Memory
  | .settings _, .install :: _ => host {}
  | _, _ => c.host

/-- A rehearsal of calls: what is told after each, and the metrics in the end. -/
def playCalls (c : Cast) (origin : Origin) (steps : List CallStep) :
    List (Entry CallAnswer) × List (String × Nat) :=
  let (entries, s) := playAll (Session.makeCallAndLook (c.inPlace origin steps) origin) steps
    { c.opening with world.started := origin.isPlaced }
  (entries, metrics s.world.journal.reverse)

end Cast

end ImageDispatch.Rehearsal
