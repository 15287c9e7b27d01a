namespace Telemetry.Crypto.Residue

def pow (m b e : Nat) : Nat :=
  if e = 0 then 1 % m
  else
    let h := pow m b (e / 2)
    if e % 2 = 0 then h * h % m else h * h % m * b % m
termination_by e
decreasing_by omega

def inverse (p a : Nat) : Nat := pow p (a % p) (p - 2)

def sub (m a b : Nat) : Nat := (a + (m - b % m)) % m

def div (p a b : Nat) : Nat := a * inverse p b % p

end Telemetry.Crypto.Residue
