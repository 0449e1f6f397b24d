import SwapDesk.Send.AuditStore

namespace SwapDesk

def AuditRow.toJson (r : AuditRow) : Json :=
  .ofMembers
    [("id", .nat r.id),
     ("uid", .string r.uid),
     ("chain_id", .nat r.chain.toNat),
     ("method", .string r.method),
     ("func", .string r.func),
     ("meta", .string r.context),
     ("meta_json", r.contextJson),
     ("tx_hash", .string r.hash.text),
     ("from_address", .string r.sender.text),
     ("to_address", .optional (fun a => .string a.text) r.target),
     ("nonce", .nat r.nonce.toNat),
     ("gas_limit", .nat r.gasLimit.toNat),
     ("gas_price_wei", .string (Text.decimal r.gasPrice.toNat)),
     ("gas_used", .optional (fun n => .nat n.toNat) r.gasUsed),
     ("block_number", .optional (fun n => .nat n.toNat) r.block),
     ("status", .optional .bool r.status)]

end SwapDesk
