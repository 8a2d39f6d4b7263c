import WireShock.Driver.HidReport

namespace WireShock

def ds3HidReportDescriptorSplitMode : List BYTE :=
  [0x05, 0x01, 0x09, 0x05, 0xA1, 0x01, 0x85, 0x01, 0x09, 0x30, 0x09, 0x31, 0x09, 0x32,
   0x09, 0x35, 0x15, 0x00, 0x26, 0xFF, 0x00, 0x75, 0x08, 0x95, 0x04, 0x81, 0x02,
   0x09, 0x39, 0x15, 0x00, 0x25, 0x07, 0x35, 0x00, 0x46, 0x3B, 0x01, 0x65, 0x14, 0x75, 0x04,
   0x95, 0x01, 0x81, 0x42,
   0x65, 0x00, 0x05, 0x09, 0x19, 0x01, 0x29, 0x0E, 0x15, 0x00, 0x25, 0x01, 0x75, 0x01,
   0x95, 0x0E, 0x81, 0x02,
   0x06, 0x00, 0xFF, 0x09, 0x20, 0x75, 0x06, 0x95, 0x01, 0x15, 0x00, 0x25, 0x7F, 0x81, 0x02,
   0x05, 0x01, 0x09, 0x33, 0x09, 0x34, 0x15, 0x00, 0x26, 0xFF, 0x00, 0x75, 0x08, 0x95, 0x02,
   0x81, 0x02,
   0xA1, 0x01, 0x85, 0x01, 0x06, 0x01, 0xFF, 0x09, 0x01, 0x75, 0x08, 0x95, 0x1D, 0x15, 0x00,
   0x26, 0xFF, 0x00, 0x81, 0x02, 0xC0,
   0xA1, 0x01, 0x85, 0xC0, 0x75, 0x08, 0x95, 0x08, 0x09, 0x01, 0xB1, 0x02, 0xC0,
   0xA1, 0x01, 0x85, 0xC1, 0x75, 0x08, 0x95, 0x08, 0x09, 0x01, 0xB1, 0x02, 0xC0,
   0xA1, 0x01, 0x85, 0xC2, 0x75, 0x08, 0x95, 0x08, 0x09, 0x01, 0xB1, 0x02, 0xC0,
   0xA1, 0x01, 0x85, 0xC3, 0x75, 0x08, 0x95, 0x03, 0x09, 0x01, 0xB1, 0x02, 0xC0,
   0xA1, 0x01, 0x85, 0xC4, 0x75, 0x08, 0x95, 0x03, 0x09, 0x01, 0xB1, 0x02, 0xC0,
   0xA1, 0x01, 0x85, 0xC5, 0x75, 0x08, 0x95, 0x07, 0x09, 0x01, 0xB1, 0x02, 0xC0,
   0xA1, 0x01, 0x85, 0xC6, 0x75, 0x08, 0x95, 0x07, 0x09, 0x01, 0xB1, 0x02, 0xC0, 0xC0,
   0x05, 0x01, 0x15, 0x00, 0x09, 0x04, 0xA1, 0x01, 0x05, 0x01, 0x85, 0x02, 0x09, 0x01,
   0x15, 0x00, 0x26, 0xFF, 0x00, 0x75, 0x08, 0x95, 0x01, 0xA1, 0x00, 0x09, 0x30, 0x81, 0x02,
   0x09, 0x31, 0x81, 0x02,
   0x09, 0x32, 0x81, 0x02,
   0x09, 0x33, 0x81, 0x02,
   0x09, 0x34, 0x81, 0x02,
   0x09, 0x35, 0x81, 0x02,
   0x09, 0x36, 0x81, 0x02,
   0x09, 0x37, 0x81, 0x02, 0xC0,
   0x05, 0x02, 0x09, 0xBB, 0x15, 0x00, 0x26, 0xFF, 0x00, 0x75, 0x08, 0x95, 0x01, 0x81, 0x02,
   0x09, 0xC5, 0x15, 0x00, 0x26, 0xFF, 0x00, 0x75, 0x08, 0x95, 0x01, 0x81, 0x02, 0xC0]

def ds3HidReportDescriptorSingleMode : List BYTE :=
  [0x05, 0x01, 0x09, 0x05, 0xA1, 0x01, 0x85, 0x01, 0x09, 0x30, 0x09, 0x31, 0x09, 0x32,
   0x09, 0x35, 0x15, 0x00, 0x26, 0xFF, 0x00, 0x75, 0x08, 0x95, 0x04, 0x81, 0x02,
   0x09, 0x39, 0x15, 0x00, 0x25, 0x07, 0x35, 0x00, 0x46, 0x3B, 0x01, 0x65, 0x14, 0x75, 0x04,
   0x95, 0x01, 0x81, 0x42,
   0x65, 0x00, 0x05, 0x09, 0x19, 0x01, 0x29, 0x0E, 0x15, 0x00, 0x25, 0x01, 0x75, 0x01,
   0x95, 0x0E, 0x81, 0x02,
   0x06, 0x00, 0xFF, 0x09, 0x20, 0x75, 0x06, 0x95, 0x01, 0x15, 0x00, 0x25, 0x7F, 0x81, 0x02,
   0x05, 0x01, 0x09, 0x33, 0x09, 0x34, 0x15, 0x00, 0x26, 0xFF, 0x00, 0x75, 0x08, 0x95, 0x02,
   0x81, 0x02,
   0x75, 0x08, 0x95, 0x01, 0x15, 0x00, 0x26, 0xFF, 0x00, 0xA1, 0x00, 0xA1, 0x02, 0x09, 0x36,
   0x81, 0x02, 0xC0,
   0xA1, 0x02, 0x09, 0x36, 0x81, 0x02, 0xC0,
   0xA1, 0x02, 0x09, 0x36, 0x81, 0x02, 0xC0,
   0xA1, 0x02, 0x09, 0x36, 0x81, 0x02, 0xC0,
   0xA1, 0x02, 0x09, 0x36, 0x81, 0x02, 0xC0,
   0xA1, 0x02, 0x09, 0x36, 0x81, 0x02, 0xC0,
   0xA1, 0x02, 0x09, 0x36, 0x81, 0x02, 0xC0,
   0xA1, 0x02, 0x09, 0x36, 0x81, 0x02, 0xC0,
   0xA1, 0x02, 0x09, 0x36, 0x81, 0x02, 0xC0,
   0xA1, 0x02, 0x09, 0x36, 0x81, 0x02, 0xC0, 0xC0,
   0xA1, 0x01, 0x85, 0x01, 0x06, 0x01, 0xFF, 0x09, 0x01, 0x75, 0x08, 0x95, 0x1D, 0x15, 0x00,
   0x26, 0xFF, 0x00, 0x81, 0x02, 0xC0,
   0xA1, 0x01, 0x85, 0xC0, 0x75, 0x08, 0x95, 0x08, 0x09, 0x01, 0xB1, 0x02, 0xC0,
   0xA1, 0x01, 0x85, 0xC1, 0x75, 0x08, 0x95, 0x08, 0x09, 0x01, 0xB1, 0x02, 0xC0,
   0xA1, 0x01, 0x85, 0xC2, 0x75, 0x08, 0x95, 0x08, 0x09, 0x01, 0xB1, 0x02, 0xC0,
   0xA1, 0x01, 0x85, 0xC3, 0x75, 0x08, 0x95, 0x03, 0x09, 0x01, 0xB1, 0x02, 0xC0,
   0xA1, 0x01, 0x85, 0xC4, 0x75, 0x08, 0x95, 0x03, 0x09, 0x01, 0xB1, 0x02, 0xC0,
   0xA1, 0x01, 0x85, 0xC5, 0x75, 0x08, 0x95, 0x07, 0x09, 0x01, 0xB1, 0x02, 0xC0,
   0xA1, 0x01, 0x85, 0xC6, 0x75, 0x08, 0x95, 0x07, 0x09, 0x01, 0xB1, 0x02, 0xC0, 0xC0]

end WireShock
