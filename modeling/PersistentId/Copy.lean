import PersistentId.Site

/-!
# Copies

Metadata that are handed to a registry service are copied, with everything that they hold: objects
and providers, and what these hold in their turn (`Site.contents`). `Site.visit` goes through all of
that, as deep as there is room, and comes to each thing once. If it comes to something that cannot
be copied, there is no copy at all. Otherwise the copies are things of their own, under new numbers,
that name each other where the things that were copied do (`Site.copied`).
-/

namespace PersistentId

/-- The operands in the parts of an object that a copy goes into, in order. -/
def DigitalObject.operands (obj : DigitalObject) : List Operand :=
  [obj.title, obj.authors, obj.publisher, obj.publicationYear] ++ obj.files?.getD [] ++
    obj.owner?.toList

/-- The object with other operands in these parts. -/
def DigitalObject.mapOperands (f : Operand → Operand) (obj : DigitalObject) : DigitalObject :=
  { obj with
    title := f obj.title
    authors := f obj.authors
    publisher := f obj.publisher
    publicationYear := f obj.publicationYear
    files? := obj.files?.map (·.map f)
    owner? := obj.owner?.map f }

/-- The minter with another operand in the place for a local service. -/
def Minter.mapService (f : Operand → Operand) : Minter → Minter
  | .random template capacity upper source => .random template capacity upper source
  | .sequence template service => .sequence template (f service)

/-- The operands in the parts of a provider that a copy goes into, in order. -/
def Provider.operands (p : Provider) : List Operand :=
  match p.minter with
  | .random .. => [p.service, p.client]
  | .sequence _ service => [p.service, service, p.client]

/-- The provider with other operands in these parts. -/
def Provider.mapOperands (f : Operand → Operand) (p : Provider) : Provider :=
  { p with service := f p.service, minter := p.minter.mapService f, client := f p.client }

namespace Operand

/-- The number of an object. -/
def object? : Operand → Option ObjectId
  | .object id => some id
  | _ => none

/-- The number of a provider. -/
def provider? : Operand → Option ProviderId
  | .provider id => some id
  | _ => none

end Operand

namespace Site

/-! ## What a copy comes to -/

/-- What the thing that an operand stands for holds itself. -/
def contents (site : Site) : Operand → List Operand
  | .object id => (site.objects.get id).operands
  | .provider id => (site.providers.get id).operands
  | _ => []

/-- What a copy comes to at an operand, behind what it has come to before. There is room for so many
levels inside each other; a thing takes one for itself and one for the table of its parts. An
identifier cannot be set up part by part, as a copy is, and a service has locks, which are held only
once. -/
def visit (site : Site) (room : Nat) (seen : List Operand) (x : Operand) :
    Except Fault (List Operand) :=
  match x with
  | .value v => if room < v.depth then .error .tooDeep else .ok seen
  | .pid _ => .error .immutable
  | .service _ | .registry _ | .other => .error .wrongType
  | .object _ | .provider _ =>
    if seen.contains x then .ok seen
    else match room with
      | room + 2 => (site.contents x).foldlM (site.visit room) (seen ++ [x])
      | _ => .error .tooDeep
termination_by structural room

/-- The things that a copy of metadata comes to. The metadata are one level. -/
def found (site : Site) (metadata : Metadata) : Except Fault (List Operand) :=
  (metadata.map (·.2)).foldlM (site.visit (Value.copyLimit - 1)) []

/-! ## Making copies -/

/-- What stands for an operand in the copies of the things found: the copy of a thing, which has the
next number not given to a copy before it. -/
def copyOf (site : Site) (found : List Operand) : Operand → Operand
  | .object id => .object (site.objects.size + (found.filterMap Operand.object?).idxOf id)
  | .provider id => .provider (site.providers.size + (found.filterMap Operand.provider?).idxOf id)
  | x => x

/-- The site with copies of the things found. A copy of a provider draws from the same source. -/
def withCopies (site : Site) (found : List Operand) : Site :=
  let copyObject (id : ObjectId) : DigitalObject :=
    (site.objects.get id).mapOperands (site.copyOf found)
  let copyProvider (id : ProviderId) : Provider :=
    { (site.providers.get id).mapOperands (site.copyOf found) with
      id := site.providers.size + (found.filterMap Operand.provider?).idxOf id }
  { site with
    objects := site.objects.addAll ((found.filterMap Operand.object?).map copyObject)
    providers := site.providers.addAll ((found.filterMap Operand.provider?).map copyProvider) }

/-- Copied metadata, and the site with the copies of what they hold. -/
def copied (site : Site) (metadata : Metadata) : Except Fault (Metadata × Site) := do
  let found ← site.found metadata
  pure (metadata.map fun (name, x) => (name, site.copyOf found x), site.withCopies found)

/-- Metadata to be handed on, which share nothing with the given ones. -/
def copyMetadata (metadata : Metadata) : Use Metadata := do
  let (copy, site) ← Action.ofExcept ((← get).copied metadata)
  set site
  pure copy

end Site

end PersistentId
