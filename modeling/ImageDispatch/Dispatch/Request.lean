import ImageDispatch.Selection.Query
import ImageDispatch.Surface.Copy
import ImageDispatch.Telemetry.Event

/-!
# Requests

What clients ask of a dispatcher. Extensions may be clients too, while they run.

* `Ref`: something that a client can hold: an algorithm object, a façade, or a lease that keeps
  the vendor library open.
* `Job`: work for an algorithm. The outputs of a job are the surfaces that it writes.
* `Task`: work for a façade, one constructor for each operation.
* `Request`, `Reply`.
-/

namespace ImageDispatch

/-- Something that can be held and shared. It goes away with its last holder. -/
inductive Ref
  | object (o : ObjectId)
  | facade (f : FacadeId)
  /-- A lease of the vendor library. -/
  | lease
  deriving DecidableEq

/-! ## Work -/

/-- Work for an algorithm. -/
inductive Job
  /-- Work `input` into `output`. -/
  | transform (input output : Surface)
  /-- Work on `buffer` in place. -/
  | inPlace (buffer : Surface)
  /-- Compose a base layer and a gain map into `hdr`. -/
  | compose (sdr gainmap hdr : Surface)
  /-- Decompose `hdr` into a base layer and a gain map. -/
  | decompose (hdr sdr gainmap : Surface)
  deriving DecidableEq

namespace Job

/-- The surfaces that are written. -/
def outputs : Job → List Surface
  | transform _ output => [output]
  | inPlace buffer => [buffer]
  | compose _ _ hdr => [hdr]
  | decompose _ sdr gainmap => [sdr, gainmap]

/-- The surface that is read first. -/
def source : Job → Surface
  | transform input _ => input
  | inPlace buffer => buffer
  | compose sdr _ _ => sdr
  | decompose hdr _ _ => hdr

/-- The surfaces that have to be valid, in the order in which they are checked. -/
def surfaces : Job → List Surface
  | transform input output => [input, output]
  | inPlace buffer => [buffer]
  | compose sdr gainmap hdr => [sdr, gainmap, hdr]
  | decompose hdr sdr gainmap => [hdr, sdr, gainmap]

/-- The job after another one of its kind has written: the outputs come from that one, and the
inputs stay. -/
def adopt : Job → Job → Job
  | transform input _, transform _ output => transform input output
  | inPlace _, inPlace buffer => inPlace buffer
  | compose sdr gainmap _, compose _ _ hdr => compose sdr gainmap hdr
  | decompose hdr _ _, decompose _ sdr gainmap => decompose hdr sdr gainmap
  | job, _ => job

/-- Every surface that takes part is valid. The first one that is not gives the error. -/
def validate (job : Job) : Except Error Unit := job.surfaces.forM Surface.validate

end Job

/-- Work for a façade. -/
inductive Task
  /-- Convert a surface into another one. -/
  | convert (input output : Surface)
  | compose (sdr gainmap image : Surface)
  | decompose (image sdr gainmap : Surface)
  /-- Generate the metadata of a surface. -/
  | generate (buffer : Surface)
  /-- Enhance the detail of a surface, and scale it. -/
  | detail (input output : Surface)
  /-- Enhance a surface towards high dynamic range. -/
  | hdr (buffer : Surface)
  /-- Enhance the contrast of a surface. -/
  | contrast (kind : ContrastKind) (input output : Surface)
  deriving DecidableEq

/-- The work that is left to an algorithm. -/
def Task.job : Task → Job
  | convert input output | detail input output | contrast _ input output => .transform input output
  | generate buffer | hdr buffer => .inPlace buffer
  | compose sdr gainmap image => .compose sdr gainmap image
  | decompose image sdr gainmap => .decompose image sdr gainmap

/-! ## Requests and replies -/

/-- A call of a method of an algorithm, past any façade. -/
inductive DirectCall
  | set (p : Parameter)
  | get
  | work (job : Job)
  /-- Choose a refresh rate for a frame. -/
  | rate (frame : Surface)
  deriving DecidableEq

/-- What a client asks. -/
inductive Request
  /-- Make a façade, and hold it. -/
  | facade (kind : FacadeKind)
  | lease
  /-- Hold what is held once more. -/
  | hold (r : Ref)
  | drop (r : Ref)
  /-- Set the parameter of a façade. -/
  | set (f : FacadeId) (p : Parameter)
  | process (f : FacadeId) (task : Task)
  /-- Find the extension for a key. -/
  | find (q : Query)
  /-- Create an algorithm for a key, and hold it. -/
  | create (q : Query)
  /-- Call a method of an algorithm that is held. -/
  | direct (o : ObjectId) (call : DirectCall)
  /-- Collect the extensions of a family. -/
  | load (family : ExtensionFamily) (static dynamic : Bool)
  /-- Count one more user of the vendor library. -/
  | increase
  /-- Count one user of the vendor library less. -/
  | decrease
  deriving DecidableEq

/-- What is answered. -/
inductive Reply
  /-- The request makes no sense for what it names. -/
  | refused
  /-- The request was carried out. -/
  | done
  /-- The façade that was made. -/
  | facade (f : FacadeId)
  | outcome (r : Except Error Unit)
  /-- How the work of a façade ended, with the surfaces afterwards. -/
  | worked (r : Except Error Unit) (job : Job)
  /-- The extension that was found. -/
  | found (s : Option Selection)
  /-- The algorithm that was created. -/
  | created (r : Except Error ObjectId)
  /-- The parameter that an algorithm reports. -/
  | parameter (p : Option ConversionParameter)
  /-- The refresh rate that an algorithm chose. -/
  | rate (r : Except Error UInt32)
  /-- The extensions that were collected. -/
  | descriptors (list : List Descriptor)

end ImageDispatch
