import InterfaceReport.Text.Pieces

/-! Names of interfaces. Ports and LAGs have a long and a short form; a sub-interface is named by
its parent, a dot and a suffix. -/

namespace InterfaceReport.Name

/-- The long form of a name that begins with the short stem and not with the long one. -/
def lengthen? (short long name : String) : Option String :=
  if Text.beginsWith long name then none else (Text.after? short name).map (long ++ ·)

/-- The long form of a name: `Eth0` is `Ethernet0` and `Po1` is `PortChannel1`. -/
def long (name : String) : String :=
  ((lengthen? "Eth" "Ethernet" name) <|> (lengthen? "Po" "PortChannel" name)).getD name

/-- The long name of the parent of a sub-interface, and the suffix. They stand before and after the
first dot. -/
def parent? (name : String) : Option (String × String) :=
  (Text.cut? '.' name).map fun (parent, suffix) => (long parent, suffix)

def isSub (name : String) : Bool := Text.has '.' name

end InterfaceReport.Name
