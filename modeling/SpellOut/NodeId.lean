/-! Numbers of declarations. -/
namespace SpellOut

/-- The number by which a host knows a declaration. -/
abbrev NodeId := Nat

end SpellOut
