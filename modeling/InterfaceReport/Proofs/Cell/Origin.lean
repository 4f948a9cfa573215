import InterfaceReport.Cell.Source

/-! Where the text of a cell comes from. The catalog decides on that before anything is read, so
what holds of each origin holds of every cell. -/

namespace InterfaceReport

inductive Origin where
  /-- The text is there already. -/
  | text (text : String)
  /-- The text is found by following a rule. -/
  | rule (rule : Rule) (key : String)
  | optics (port : String)
  | lagSpeed (lag : String)

def Origin.ofRule (rule : Option Rule) (key : String) : Origin :=
  match rule with
  | some rule => .rule rule key
  | none => .text notAvailable

namespace Catalog

variable (c : Catalog)

def portOrigin (port : String) : Attribute → Origin
  | .vlan => .text (c.switchMode ((c.lagOf? port).getD port)).name
  | .type => .optics port
  | a => .ofRule (Rule.port? a) port

def lagOrigin (lag : String) : Attribute → Origin
  | .speed => .lagSpeed lag
  | .vlan => .text (c.switchMode lag).name
  | .type => .text notAvailable
  | a => .ofRule (Rule.lag? a) lag

def parentOrigin (parent : String) (a : Attribute) : Origin :=
  if c.isPort parent then c.portOrigin parent a
  else if c.isLag parent then c.lagOrigin parent a
  else .text notAvailable

def subInterfaceOrigin (name : String) (a : Attribute) : Origin :=
  match Name.parent? name with
  | none => .text notAvailable
  | some (parent, _) =>
    match a with
    | .type => .text "802.1q-encapsulation"
    | .mtu | .speed => c.parentOrigin parent a
    | a => .ofRule (Rule.subInterface? a) name

/-- Where the text of a cell comes from. -/
def origin : InterfaceKind → String → Attribute → Origin
  | .port => c.portOrigin
  | .lag => c.lagOrigin
  | .subInterface => c.subInterfaceOrigin

theorem origin_port {port : String} {a : Attribute} {rule : Rule} (h : Rule.port? a = some rule) :
    c.origin .port port a = .rule rule port := by
  cases a <;> cases h <;> rfl

/-- Catalogs that agree on these questions agree on the origin of every cell. -/
theorem origin_congr {c c' : Catalog} (hport : c'.isPort = c.isPort) (hlag : c'.isLag = c.isLag)
    (hlagOf : c'.lagOf? = c.lagOf?) (hmode : c'.switchMode = c.switchMode) :
    c'.origin = c.origin := by
  have hportOrigin : c'.portOrigin = c.portOrigin := by
    funext port a
    simp only [portOrigin, hlagOf, hmode]
  have hlagOrigin : c'.lagOrigin = c.lagOrigin := by
    funext lag a
    simp only [lagOrigin, hmode]
  funext kind name a
  cases kind with
  | port => rw [origin, origin, hportOrigin]
  | lag => rw [origin, origin, hlagOrigin]
  | subInterface =>
    simp only [origin, subInterfaceOrigin, parentOrigin, hport, hlag, hportOrigin, hlagOrigin]

end Catalog

/-! ### Reading -/

namespace CellSource

variable (r : CellSource)

def read : Origin → Except StoreError String
  | .text text => .ok text
  | .rule rule key => r.follow rule key
  | .optics port => r.stores.optics r.copperPorts port
  | .lagSpeed lag => .ok ((r.lagSpeeds.get? lag).getD notAvailable)

theorem portCell_eq (port : String) (a : Attribute) :
    r.portCell port a = r.read (r.catalog.portOrigin port a) := by
  cases a <;> rfl

theorem lagCell_eq (lag : String) (a : Attribute) :
    r.lagCell lag a = r.read (r.catalog.lagOrigin lag a) := by
  cases a <;> rfl

theorem parentCell_eq (parent : String) (a : Attribute) :
    r.parentCell parent a = r.read (r.catalog.parentOrigin parent a) := by
  rw [parentCell, Catalog.parentOrigin]
  split
  · exact r.portCell_eq parent a
  · split
    · exact r.lagCell_eq parent a
    · rfl

theorem subInterfaceCell_eq (name : String) (a : Attribute) :
    r.subInterfaceCell name a = r.read (r.catalog.subInterfaceOrigin name a) := by
  rw [subInterfaceCell, Catalog.subInterfaceOrigin]
  cases Name.parent? name with
  | none => rfl
  | some parent =>
    cases a with
    | mtu | speed => exact r.parentCell_eq parent.1 _
    | _ => rfl

/-- A cell is what is read from its origin. -/
theorem cell_eq (kind : InterfaceKind) (name : String) (a : Attribute) :
    r.cell kind name a = r.read (r.catalog.origin kind name a) := by
  cases kind with
  | port => exact r.portCell_eq name a
  | lag => exact r.lagCell_eq name a
  | subInterface => exact r.subInterfaceCell_eq name a

end CellSource

/-! ### What there is to an origin -/

/-- The rule is one for the attribute. -/
def Rule.Serves (a : Attribute) (rule : Rule) : Prop :=
  port? a = some rule ∨ lag? a = some rule ∨ subInterface? a = some rule

/-- What the text of an attribute can come from. -/
inductive Origin.Serves (a : Attribute) : Origin → Prop
  | text {text : String} : text ≠ "" → Serves a (.text text)
  | rule {rule : Rule} (key : String) : rule.Serves a → Serves a (.rule rule key)
  | optics (port : String) : Serves a (.optics port)
  | lagSpeed (lag : String) : Serves a (.lagSpeed lag)

theorem Origin.serves_ofRule {a : Attribute} {rule : Option Rule}
    (h : ∀ x, rule = some x → x.Serves a) (key : String) : (ofRule rule key).Serves a := by
  cases rule with
  | none => exact .text (by decide)
  | some rule => exact .rule key (h rule rfl)

theorem SwitchMode.name_ne_empty (m : SwitchMode) : m.name ≠ "" := by
  cases m <;> decide

namespace Catalog

variable (c : Catalog)

theorem serves_portOrigin (port : String) (a : Attribute) : (c.portOrigin port a).Serves a := by
  have hrule := Origin.serves_ofRule (fun _ h => .inl h : ∀ x, Rule.port? a = some x → _) port
  cases a with
  | vlan => exact .text (SwitchMode.name_ne_empty _)
  | type => exact .optics port
  | _ => exact hrule

theorem serves_lagOrigin (lag : String) (a : Attribute) : (c.lagOrigin lag a).Serves a := by
  have hrule := Origin.serves_ofRule (fun _ h => .inr (.inl h) : ∀ x, Rule.lag? a = some x → _) lag
  cases a with
  | speed => exact .lagSpeed lag
  | vlan => exact .text (SwitchMode.name_ne_empty _)
  | type => exact .text (by decide)
  | _ => exact hrule

theorem serves_origin (kind : InterfaceKind) (name : String) (a : Attribute) :
    (c.origin kind name a).Serves a := by
  cases kind with
  | port => exact c.serves_portOrigin name a
  | lag => exact c.serves_lagOrigin name a
  | subInterface =>
    have hrule := Origin.serves_ofRule
      (fun _ h => .inr (.inr h) : ∀ x, Rule.subInterface? a = some x → _) name
    have hparent : ∀ parent, (c.parentOrigin parent a).Serves a := by
      intro parent
      unfold parentOrigin
      split
      · exact c.serves_portOrigin parent a
      · split
        · exact c.serves_lagOrigin parent a
        · exact .text (by decide)
    rw [origin, subInterfaceOrigin]
    cases Name.parent? name with
    | none => exact .text (by decide)
    | some parent =>
      cases a with
      | type => exact .text (by decide)
      | mtu | speed => exact hparent parent.1
      | _ => exact hrule

end Catalog

end InterfaceReport
